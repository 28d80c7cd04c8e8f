import ColliderML.Command.Basic

/-!
Commands on physics objects: reading names, building objects from arguments or
configurations, classifying arguments, comparing and looking up kinds.
-/

namespace ColliderML

namespace Command

open Request

def objectClassOf (d : Datum) : Outcome ObjectClass :=
  match d with
  | .str "Single" => .ok .single
  | .str "Collective" => .ok .collective
  | .str "Nested" => .ok .nested
  | .str "Multiple" => .ok .multiple
  | d => .error (.missingKey d.literal)

/-- Reads a name given as any value as the given kind. A value that is not a
text fails as the reader's first use of it does. -/
def objectOfNameAs (kind : ObjectClass) (d : Datum) : Outcome PhysicsObject :=
  match d with
  | .str s => PhysicsObject.ofNameAs kind s
  | d =>
    match kind with
    | .single | .collective => .error (.noMember d.kindName "strip")
    | .nested | .multiple =>
      let mark := if kind = .nested then "." else ","
      match d with
      | .list items =>
        if items.any (fun i => match i with | .str s => s == mark | _ => false)
        then .error (.noMember "list" "split")
        else .error (.invalidObjectName (some kind) d.display)
      | .dict fs =>
        if fs.any (fun kv => kv.1 == mark) then .error (.noMember "dict" "split")
        else .error (.invalidObjectName (some kind) d.display)
      | d => .error (.other .badType ("argument of type '" ++ d.kindName ++ "' is not iterable"))

def readObject (req : Datum) : Reply :=
  Reply.value (do let o ← objectOfName (← need req "name"); pure o.describe)

def objectFromName (req : Datum) : Reply :=
  Reply.value do
    let kind ← objectClassOf (← need req "class")
    let o ← objectOfNameAs kind (← need req "name")
    pure o.describe

def newObject (req : Datum) : Reply :=
  Reply.value do
    let kind ← objectClassOf (← need req "class")
    let args ← objectArgs (← needRecord req "args")
    PhysicsObject.describeNew kind args

def objectFromConfig (req : Datum) : Reply :=
  Reply.value do
    let kind ← objectClassOf (← need req "class")
    let config ← needRecord req "config"
    PhysicsObject.describeNew kind (config.map (fun kv => (kv.1, .value kv.2)))

def classifyObject (req : Datum) : Outcome Reply := do
  let a ← objectArg (← need req "name")
  let bool := fun (r : Outcome Bool) => Reply.ofOutcome (r.map .bool)
  let base := [("single", bool (PhysicsObject.isSingleArg a)),
    ("collective", bool (PhysicsObject.isCollectiveArg a)),
    ("nested", bool (PhysicsObject.isNestedArg a)),
    ("multiple", bool (PhysicsObject.isMultipleArg a none))]
  match req.field? "supported_types" with
  | none => pure (.record base)
  | some s =>
    let kinds ← match (← objectArg s) with
      | .list xs => pure xs
      | _ => .error (.badRequest "supported_types must be a list")
    pure (.record (base ++ [("multiple_supported", bool (PhysicsObject.isMultipleArg a (some kinds)))]))

def objectEquals (o : PhysicsObject) : ObjectArg → Outcome Bool
  | .object p => .ok (Text.lower o.name == Text.lower p.name)
  | .value (.str s) => .ok (o.sameName s)
  | a => .error (.noMember a.kindName "lower")

def compareObjects (req : Datum) : Reply :=
  Reply.value do
    let o ← objectOfName (← need req "a")
    let b ← objectArg (← need req "b")
    let r ← objectEquals o b
    pure (.bool r)

def objectKindNamed (req : Datum) : Reply :=
  Reply.value do
    let id ← need req "identifier"
    match id with
    | .str s =>
      let kinds := [ObjectClass.single, .collective, .nested, .multiple]
      match kinds.find? (fun k => k.name == s || k.word == s) with
      | some k => pure (.str k.name)
      | none => pure .none
    | .list _ => .error (.unhashable "list")
    | .dict _ => .error (.unhashable "dict")
    | _ => pure .none

end Command

end ColliderML
