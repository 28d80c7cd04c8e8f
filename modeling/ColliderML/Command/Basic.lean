import ColliderML.PhysicsObject.Construct

/-!
The command interface: requests are data records naming an operation, and
replies are data in which any part may be a failure in place of a value.
This module holds the reply type and the readers of request fields.
-/

namespace ColliderML

/-- A reply: data, a failure in place of data (with more fields when a failed
step also reports the state it left), or a record or list of replies. -/
inductive Reply where
  | data (d : Datum)
  | failure (e : Error)
  | failureWith (e : Error) (fields : List (String × Reply))
  | record (fields : List (String × Reply))
  | list (items : List Reply)
  deriving Inhabited

namespace Reply

def ofOutcome (r : Outcome Datum) : Reply :=
  match r with
  | .ok d => .data d
  | .error e => .failure e

def value (r : Outcome Datum) : Reply :=
  match r with
  | .ok d => .record [("value", .data d)]
  | .error e => .failure e

end Reply

namespace Request

def need (req : Datum) (k : String) : Outcome Datum :=
  match req.field? k with
  | some d => .ok d
  | none => .error (.missingKey (quoteText k))

def opt (req : Datum) (k : String) (default : Datum) : Datum :=
  (req.field? k).getD default

def needText (req : Datum) (k : String) : Outcome String := do
  match (← need req k) with
  | .str s => pure s
  | _ => .error (.badRequest ("field " ++ k ++ " must be a text"))

def needList (req : Datum) (k : String) : Outcome (List Datum) := do
  match (← need req k) with
  | .list xs => pure xs
  | _ => .error (.badRequest ("field " ++ k ++ " must be a list"))

def needRecord (req : Datum) (k : String) : Outcome (List (String × Datum)) := do
  match (← need req k) with
  | .dict fs => pure fs
  | _ => .error (.badRequest ("field " ++ k ++ " must be a record"))

def objectOfName (d : Datum) : Outcome PhysicsObject :=
  match d with
  | .str s => PhysicsObject.ofName s
  | d => .error (.notText d.kindName)

/--
An argument in object form: a record with the field "object" stands for the
physics object of that name, a list for the list of its items' arguments, and
any other value for itself.
-/
def objectArg : Datum → Outcome ObjectArg
  | .dict fs =>
    match fs.lookup "object" with
    | some n => do let o ← objectOfName n; pure (.object o)
    | none => .ok (.value (.dict fs))
  | .list items => do
    let xs ← items.attach.mapM (fun ⟨d, _⟩ => objectArg d)
    pure (.list xs)
  | d => .ok (.value d)

def objectArgs (fs : List (String × Datum)) : Outcome (List (String × ObjectArg)) :=
  fs.mapM (fun kv => do let a ← objectArg kv.2; pure (kv.1, a))

end Request

end ColliderML
