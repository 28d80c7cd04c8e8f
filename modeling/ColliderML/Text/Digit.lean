import ColliderML.Text.Ranges

/-!
Decimal digits: every character of Unicode 14 category Nd. Such characters come
in runs of ten consecutive code points, from zero to nine, so a digit's value is
its distance from the first code point of its run.
-/

namespace ColliderML.Text

def digitZeros : Array Nat := #[
  48,
  1632,
  1776,
  1984,
  2406,
  2534,
  2662,
  2790,
  2918,
  3046,
  3174,
  3302,
  3430,
  3558,
  3664,
  3792,
  3872,
  4160,
  4240,
  6112,
  6160,
  6470,
  6608,
  6784,
  6800,
  6992,
  7088,
  7232,
  7248,
  42528,
  43216,
  43264,
  43472,
  43504,
  43600,
  44016,
  65296,
  66720,
  68912,
  69734,
  69872,
  69942,
  70096,
  70384,
  70736,
  70864,
  71248,
  71360,
  71472,
  71904,
  72016,
  72784,
  73040,
  73120,
  92768,
  92864,
  93008,
  120782,
  120792,
  120802,
  120812,
  120822,
  123200,
  123632,
  125264,
  130032]

def digitValue? (c : Char) : Option Nat :=
  let n := c.val.toNat
  if n < 128 then (if c.isDigit then some (n - 48) else none)
  else
    match digitZeros.toList.find? (fun z => z ≤ n ∧ n < z + 10) with
    | some z => some (n - z)
    | none => none

def isDecimalDigit (c : Char) : Bool := (digitValue? c).isSome

end ColliderML.Text
