/-!
Data values: the loosely typed values that configurations, keyword arguments
and reports are made of. A value is nothing, a truth value, an integer of any
size, a double, a text, a list, or a record whose fields keep their order.
-/

namespace ColliderML

/-- A loosely typed data value. Records keep their fields in insertion order. -/
inductive Datum where
  | none
  | bool (b : Bool)
  | int (i : Int)
  | float (x : Float)
  | str (s : String)
  | list (items : List Datum)
  | dict (fields : List (String × Datum))
  deriving Inhabited

def assocSet {α : Type} (xs : List (String × α)) (k : String) (v : α) : List (String × α) :=
  if xs.any (fun e => e.1 == k) then xs.map (fun e => if e.1 == k then (k, v) else e)
  else xs ++ [(k, v)]

namespace Datum

def field? : Datum → String → Option Datum
  | .dict fields, k => fields.lookup k
  | _, _ => none

def hasField (d : Datum) (k : String) : Bool := (d.field? k).isSome

def fields : Datum → List (String × Datum)
  | .dict fields => fields
  | _ => []

def str? : Datum → Option String
  | .str s => some s
  | _ => Option.none

def int? : Datum → Option Int
  | .int i => some i
  | .bool b => some (if b then 1 else 0)
  | _ => Option.none

def float? : Datum → Option Float
  | .float x => some x
  | .int i => some (Float.ofInt i)
  | .bool b => some (if b then 1.0 else 0.0)
  | _ => Option.none

def list? : Datum → Option (List Datum)
  | .list items => some items
  | _ => Option.none

def record (fields : List (String × Datum)) : Datum := .dict fields

def ofOption (s : Option String) : Datum :=
  match s with
  | some s => .str s
  | Option.none => .none

def ofIntOption (i : Option Int) : Datum :=
  match i with
  | some i => .int i
  | Option.none => .none

def ofStrings (xs : List String) : Datum := .list (xs.map .str)

/--
Truthiness: nothing, false, zero, the empty text, the empty list and the empty
record are false; every other value is true.
-/
def truthy : Datum → Bool
  | .none => false
  | .bool b => b
  | .int i => i != 0
  | .float x => x != 0.0
  | .str s => !s.isEmpty
  | .list items => !items.isEmpty
  | .dict fields => !fields.isEmpty

def kindName : Datum → String
  | .none => "NoneType"
  | .bool _ => "bool"
  | .int _ => "int"
  | .float _ => "float"
  | .str _ => "str"
  | .list _ => "list"
  | .dict _ => "dict"

end Datum

end ColliderML
