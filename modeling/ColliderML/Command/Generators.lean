import ColliderML.Command.Basic
import ColliderML.Generator.Call

/-!
Commands on event generator output directories, built from files given in the
request below a working directory that answers name `$TMP`.
-/

namespace ColliderML

namespace Command

open Request

def workRoot : String := "$TMP"

def staysBelow (p : String) : Bool :=
  !Text.startsWith p "/" && !(Text.splitOn p "/").contains ".."

def fileTreeOf (req : Datum) : Outcome FileTree := do
  let files ← (opt req "files" (.dict [])).fields.mapM (fun kv =>
    match kv.2 with
    | .str content =>
      if staysBelow kv.1 then .ok ((Location.ofText kv.1).parts, content)
      else .error (.badRequest ("path escapes the directory: " ++ kv.1))
    | _ => .error (.badRequest "file contents must be texts"))
  let dirs ← match opt req "dirs" (.list []) with
    | .list items => items.mapM (fun d =>
      match d with
      | .str p => if staysBelow p then .ok (Location.ofText p).parts
        else .error (.badRequest ("path escapes the directory: " ++ p))
      | _ => .error (.badRequest "directories must be texts"))
    | _ => .error (.badRequest "dirs must be a list")
  pure ⟨files, dirs⟩

def replyOf {α : Type} (r : Outcome α) (write : α → Datum) : Reply :=
  match r with
  | .ok a => .data (write a)
  | .error e => .failure e

def runFields (tree : FileTree) (r : GeneratorRun) : List (String × Reply) :=
  [("directory", .data (.str (r.directory.text workRoot))),
   ("name", replyOf r.runName .str),
   ("collider", replyOf r.collider .str),
   ("tag", replyOf r.tag .str),
   ("seed", replyOf r.seed .int),
   ("cross", replyOf r.cross .float),
   ("cross_error", replyOf r.error .float),
   ("n_events", replyOf r.nEvents .int),
   ("sub_runs", replyOf (GeneratorRun.subRuns tree workRoot r)
     (fun subs => Datum.ofStrings ((subs.map (·.directory.name)).mergeSort (fun a b => a ≤ b)))),
   ("repr", replyOf (GeneratorRun.describe tree workRoot r) .str)]

def describeRun (req : Datum) : Outcome Reply := do
  let tree ← fileTreeOf req
  let output ← needText req "output_dir"
  let name ← needText req "name"
  let run ← GeneratorRun.load tree workRoot (Location.ofText output) name
  let events := replyOf (GeneratorRun.events tree workRoot run (opt req "events_format" (.str "root")))
    (fun es => Datum.ofStrings (es.mergeSort (fun a b => a ≤ b)))
  pure (.record (runFields tree run ++ [("events", events)]))

def launchSettingsOf (step : Datum) : Outcome (List (String × Datum)) :=
  match opt step "settings" (.dict []) with
  | .dict fs => pure fs
  | _ => .error (.badRequest "settings must be a record")

/-- The defaults of the launch function: the settings dict at 0, the decay and card lists
at 1 and 2. -/
def launchDefaults : LaunchDefaults := ⟨0, 1, 2, by decide⟩

/-- The objects of a launch step: the defaults as the function made them (every call passes
its own settings, so the default dict is never written), the step's settings as a fresh dict
at 3, its decays at 4 and its cards at 5. -/
def launchHeapOf (step : Datum) (settings : List (String × Datum)) : Heap :=
  ⟨fun addr => match addr with
    | 0 => .dict []
    | 1 => .list []
    | 2 => .list []
    | 3 => .dict settings
    | 4 => opt step "decays" (.list [])
    | _ => opt step "cards" (.list [])⟩

/-- The launch call of a step: its own settings dict, and its decays and cards, or the
defaults where it gives none. -/
def launchCallOf (step : Datum) : LaunchCall :=
  { shower := opt step "shower" (.str "off"), detector := opt step "detector" (.str "off"),
    madspin := opt step "madspin" (.str "off"), settings := 3,
    decays := if step.hasField "decays" then 4 else launchDefaults.decays,
    cards := if step.hasField "cards" then 5 else launchDefaults.cards,
    multiRun := opt step "multi_run" (.int 1), seed := opt step "seed" .none }

def cardFileName (k : Nat) : String := "$TMPFILE" ++ toString k

/-- The reply to a launch: the script and the written card files, sorted by
how the script names them (unnamed last), then by name prefix and content. -/
def launchReply (script : LaunchScript) : Datum :=
  let (entries, _) := script.cards.foldl (fun (acc : List (Option String × CardFile) × Nat) c =>
    if c.listed then (acc.1 ++ [(some (cardFileName acc.2), c)], acc.2 + 1)
    else (acc.1 ++ [(none, c)], acc.2)) ([], 0)
  let before := fun (a b : Option String × CardFile) =>
    let key := fun (e : Option String × CardFile) => (e.1.isNone, e.1.getD "", e.2.namePrefix, e.2.content)
    let (n1, r1, p1, c1) := key a
    let (n2, r2, p2, c2) := key b
    if n1 != n2 then !n1
    else if r1 != r2 then r1 < r2
    else if p1 != p2 then p1 < p2
    else c1 ≤ c2
  let files := (entries.mergeSort before).map (fun (r, c) =>
    Datum.dict [("prefix", .str c.namePrefix), ("referenced_as", Datum.ofOption r), ("content", .str c.content)])
  .dict [("commands", .str script.commands), ("temp_files", .list files)]

def outputStep (tree : FileTree) (o : GeneratorOutput) (step : Datum) : Outcome Reply :=
  match step.field? "op" with
  | some (.str "version") => .ok (replyOf (o.version tree workRoot) .str)
  | some (.str "repr") => .ok (replyOf (o.version tree workRoot) (fun v => .str ("Madgraph5 v" ++ v)))
  | some (.str "processes") => .ok (replyOf (o.processes tree workRoot) Datum.ofStrings)
  | some (.str "home") => .ok (.data .none)
  | some (.str "executable") => .ok (.failure .executableUnset)
  | some (.str "output_dir") => .ok (.data (.str (o.dir.text workRoot)))
  | some (.str "runs") =>
    .ok (match o.runs tree workRoot with
      | .ok runs => .list (runs.map (fun r => .record (runFields tree r)))
      | .error e => .failure e)
  | some (.str "summary") => .ok (replyOf (o.summary tree workRoot) .str)
  | some (.str "launch") => do
    let settings ← launchSettingsOf step
    pure (replyOf (dryLaunch tree workRoot o cardFileName (launchHeapOf step settings)
      (launchCallOf step)).1 launchReply)
  | _ => .error (.badRequest "unknown step")

def runOutput (req : Datum) : Outcome Reply := do
  let tree ← fileTreeOf req
  let output ← needText req "output_dir"
  let o ← GeneratorOutput.load tree (Location.ofText output) (opt req "executable" .none)
  let steps ← needList req "steps"
  let replies ← steps.mapM (outputStep tree o)
  pure (.record [("steps", .list replies)])

end Command

end ColliderML
