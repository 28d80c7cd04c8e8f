import ColliderML.Tensor.Decode
import ColliderML.Text.Lower
import ColliderML.Datum.Literal

/-!
# Event data

Event data is a list of branches: arrays under keys such as `Jet.PT` or
`Jet_size`, in the order given. Lookups by exact key fail with the key quoted.
Readers also look keys up by their lower-case spelling; of two keys that differ
only in letter case the later one is found.

Event data is given as a record of arrays: nested lists, read as single
precision with nothing as NaN, or a record with an element type name and the
nested lists. Unknown element types and ragged lists are refused.
-/

namespace ColliderML

/-- Event data: arrays under keys, in the order given. -/
structure Events where
  branches : List (String × Tensor)
  deriving Inhabited

namespace Events

def keys (ev : Events) : List String := ev.branches.map (·.1)

def has (ev : Events) (key : String) : Bool := ev.keys.contains key

def array (ev : Events) (key : String) : Outcome Tensor :=
  match ev.branches.lookup key with
  | some t => .ok t
  | none => .error (.missingKey (quoteText key))

def keyFor? (ev : Events) (lower : String) : Option String :=
  (ev.keys.filter (fun k => Text.lower k == lower)).getLast?

def keyFor (ev : Events) (lower : String) : Outcome String :=
  match ev.keyFor? lower with
  | some k => .ok k
  | none => .error (.missingKey (quoteText lower))

def arrayFor (ev : Events) (lower : String) : Outcome Tensor := do
  ev.array (← ev.keyFor lower)

def decodeArray (d : Datum) : Outcome Tensor :=
  let refuse := fun (name : String) (e : Error) =>
    Except.error (Error.badRequest ("not a rectangular " ++ name ++ " array: " ++ e.message))
  match d with
  | .dict fields =>
    let name := match fields.lookup "dtype" with
      | some (.str s) => s
      | some other => other.display
      | none => "None"
    match DType.ofName? name with
    | none => .error (.badRequest ("unsupported dtype " ++ name))
    | some t =>
      match Tensor.ofDatum t ((fields.lookup "data").getD (.list [])) with
      | .ok a => .ok a
      | .error e => refuse name e
  | d =>
    match Tensor.ofDatum .float32 d with
    | .ok a => .ok a
    | .error e => refuse "float32" e

def decode (d : Datum) : Outcome Events := do
  match d with
  | .dict fields =>
    let branches ← fields.mapM (fun kv => do pure (kv.1, ← decodeArray kv.2))
    pure ⟨branches⟩
  | _ => throw (.badRequest "events must be an object")

end Events

end ColliderML
