import ColliderML.Datum
import ColliderML.Number.Shortest

/-!
Equality of data values, as `==` decides it for the values JSON reads.

Numbers compare by value, exactly: a truth value is the integer 0 or 1,
integers of any size compare as integers, a double equals an integer only when
its value is that integer, and two doubles compare as floating-point numbers (a
NaN equals nothing, the two zeros are equal). Texts compare character by
character, and nothing equals only itself. Lists are equal when they have the
same length and equal items in order, records when they have as many fields and
each key of the one holds an equal value in the other. An item of a list or a
record is first compared by identity, and every NaN that JSON reads is the one
shared value, so a NaN item equals a NaN item.
-/

namespace ColliderML

namespace Datum

def floatEqInt (x : Float) (i : Int) : Bool :=
  match Number.Parts.ofFloat x with
  | .finite neg b =>
    let signed : Int := if neg then -(b.m : Int) else b.m
    if 0 ≤ b.e then signed * Int.pow 2 b.e.toNat == i else signed == i * Int.pow 2 (-b.e).toNat
  | _ => false

def intValue? : Datum → Option Int
  | .bool b => some (if b then 1 else 0)
  | .int i => some i
  | _ => Option.none

def bothNaN : Datum → Datum → Bool
  | .float x, .float y => x.isNaN && y.isNaN
  | _, _ => false

mutual
def pyEq : Datum → Datum → Bool
  | .none, .none => true
  | .str a, .str b => a == b
  | .float x, .float y => x == y
  | .float x, d => (d.intValue?.map (floatEqInt x)).getD false
  | .list as, .list bs => itemsEq as bs
  | .dict fs, .dict gs => fs.length == gs.length && fieldsWithin fs gs
  | a, .float y => (a.intValue?.map (floatEqInt y)).getD false
  | a, b =>
    match a.intValue?, b.intValue? with
    | some i, some j => i == j
    | _, _ => false

def itemsEq : List Datum → List Datum → Bool
  | [], [] => true
  | a :: as, b :: bs => (bothNaN a b || pyEq a b) && itemsEq as bs
  | _, _ => false

def fieldsWithin : List (String × Datum) → List (String × Datum) → Bool
  | [], _ => true
  | (k, v) :: rest, gs =>
    (match gs.lookup k with
      | some w => bothNaN v w || pyEq v w
      | Option.none => false) && fieldsWithin rest gs
end

end Datum

end ColliderML
