import ColliderML.Error
import ColliderML.Text.Basic

/-!
Reading into dynamic values as the request's arguments are used: the item at a
position, the values a star spreads into a call, adding one, and reading a
value as a count. Each refuses a value of the wrong kind with the failure that
names its kind.
-/

namespace ColliderML

namespace Datum

/-- The item at a position: a list's item or a text's character. A record's
keys are texts, so no position is among them. -/
def item (d : Datum) (i : Nat) : Outcome Datum :=
  match d with
  | .list items =>
    match items[i]? with
    | some x => .ok x
    | Option.none => .error .listIndex
  | .str s =>
    match s.toList[i]? with
    | some c => .ok (.str (String.singleton c))
    | Option.none => .error .textIndex
  | .dict _ => .error (.missingKey (toString i))
  | d => .error (.notSubscriptable d.kindName)

def unpack : Datum → Outcome (List Datum)
  | .list items => .ok items
  | .str s => .ok (s.toList.map (fun c => .str (String.singleton c)))
  | .dict fields => .ok (fields.map (fun kv => .str kv.1))
  | d => .error (.notUnpackable d.kindName)

def iterItems : Datum → Outcome (List Datum)
  | .list items => .ok items
  | .str s => .ok (s.toList.map (fun c => .str (String.singleton c)))
  | .dict fields => .ok (fields.map (fun kv => .str kv.1))
  | d => .error (.notIterable d.kindName)

/-- Whether a text is in a value: a piece of a text, an item of a list, a key of a record. -/
def containsText (d : Datum) (t : String) : Outcome Bool :=
  match d with
  | .str s => .ok (Text.containsText s t)
  | .list items => .ok (items.any (fun i => match i with
    | .str s => s == t
    | _ => false))
  | .dict fields => .ok (fields.any (·.1 == t))
  | d => .error (.other .badType ("argument of type '" ++ d.kindName ++ "' is not iterable"))

def textItems (d : Datum) : Outcome (List String) := do
  let items ← d.iterItems
  let rec go : Nat → List Datum → Outcome (List String)
    | _, [] => .ok []
    | i, .str s :: rest => do let r ← go (i + 1) rest; pure (s :: r)
    | i, x :: _ => .error (.other .badType
        ("sequence item " ++ toString i ++ ": expected str instance, " ++ x.kindName ++ " found"))
  go 0 items

def succ : Datum → Outcome Datum
  | .int i => .ok (.int (i + 1))
  | .bool b => .ok (.int (if b then 2 else 1))
  | .float x => .ok (.float (x + 1))
  | .str _ => .error (.textConcatenation "str" "int")
  | .list _ => .error (.listConcatenation "list" "int")
  | d => .error (.unsupportedOperands "+" d.kindName "int")

def asIndex : Datum → Outcome Int
  | .int i => .ok i
  | .bool b => .ok (if b then 1 else 0)
  | d => .error (.notAnIndex d.kindName)

end Datum

end ColliderML
