import ColliderML.Boosting.Model

/-!
# Saving and loading classifiers

Classifiers are saved to files of a working directory, written `$TMP` in
messages. A file is named as given, with the suffix of its format: the
suffix given with the name decides the format, else the format asked for
(pickled by default). Saving opens the file before checking the format, so a
format that cannot be saved still leaves an empty file; with overwriting
refused, a file already there is an error.

Loading reads a pickled file back as the classifier it holds; a keras file
loads through the keras loader, and any other suffix is unknown.
-/

namespace ColliderML

/-- A file of the working directory: its name and the classifier pickled in
it, if anything was written. -/
structure SavedModel where
  name : String
  model : Option BoostedTrees
  deriving Inhabited

namespace SavedModel

def directory : String := "$TMP"

def suffix (name : String) : String :=
  let last := (name.splitOn "/").getLastD name
  let chars := last.toList
  match (chars.zipIdx.filter (fun e => e.1 == '.')).getLast? with
  | none => ""
  | some (_, i) =>
    if i == 0 || i + 1 == chars.length then "" else String.ofList (chars.drop i)

def withSuffix (name newSuffix : String) : String :=
  let s := suffix name
  String.ofList (name.toList.take (name.length - s.length)) ++ newSuffix

def save (files : List SavedModel) (m : BoostedTrees) (name : String) (overwrite format : Datum) :
    List SavedModel × Outcome Unit :=
  let given := suffix name
  let fmt := if given != "" then given.drop 1 |>.toString else format.display
  if fmt.isEmpty then (files, .error (.other .badValue "Invalid suffix '.'"))
  else
    let target := withSuffix name ("." ++ fmt)
    let path := directory ++ "/" ++ target
    if !overwrite.truthy && files.any (·.name == target) then
      (files, .error (.other .fileExists ("File already exists: " ++ path)))
    else if target.contains '/' then (files, .error (.noSuchFile path))
    else
      let content := if fmt == "pickle" then some m else none
      let files := (files.filter (·.name != target)) ++ [{ name := target, model := content }]
      if fmt == "pickle" then (files, .ok ())
      else (files, .error (.other .badValue ("save_format " ++ fmt ++ " not supported")))

def listing (files : List SavedModel) : Datum :=
  Datum.ofStrings ((files.map (·.name)).mergeSort (fun a b => decide (a ≤ b)))

def load (files : List SavedModel) (name : String) : Outcome Datum :=
  match suffix name with
  | ".keras" => .ok (.str "loaded_keras")
  | ".pickle" =>
    match files.find? (·.name == name) with
    | some { model := some m, .. } => .ok m.describe
    | some _ => .error (.other .badValue "Ran out of input")
    | none => .error (.noSuchFile (directory ++ "/" ++ name))
  | _ => .error (.other .badValue "Unknown file format")

end SavedModel

end ColliderML
