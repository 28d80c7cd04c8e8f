/-!
Shortest decimal digits of a binary floating-point number.

A finite positive binary number is m · 2^e. Every real strictly between it and
its neighbours' midpoints rounds back to it, and so do the midpoints themselves
when m is even (ties go to the even significand). The shortest decimal that
reads back is found by trying 1, 2, … significant digits: with k digits the
decimals nearest the number on the grid 10^p (p chosen so that the number has k
digits before the point) are its two neighbours on that grid, and if any k-digit
decimal lies in the interval then one of these two does. Of two neighbours that
both read back the nearer is taken, and of two equally near the even one. All
arithmetic is exact, on natural numbers.
-/

namespace ColliderML.Number

/-- A finite positive binary number m · 2^e with the shape of its rounding interval. -/
structure Binary where
  /-- The significand. -/
  m : Nat
  /-- The binary exponent. -/
  e : Int
  /-- Whether the gap below is half the gap above (a power of two above the smallest normal). -/
  narrowBelow : Bool
  deriving Repr, DecidableEq

/-- Digits and a decimal exponent: the number digits · 10^exponent. -/
structure Decimal where
  digits : Nat
  exponent : Int
  deriving Repr, DecidableEq

def compareScaled (a : Nat) (i : Int) (b : Nat) (j : Int) : Ordering :=
  let lhs := a * Nat.pow 10 i.toNat * Nat.pow 2 (-j).toNat
  let rhs := b * Nat.pow 2 j.toNat * Nat.pow 10 (-i).toNat
  compare lhs rhs

def digitCount (n : Nat) : Nat := (Nat.toDigits 10 n).length

def floorLog10 (a b : Nat) : Int :=
  if b ≤ a then (digitCount (a / b) : Int) - 1
  else
    -- the least s with a · 10^s ≥ b, that is with 10^s ≥ ⌈b / a⌉
    let q := (b + a - 1) / a
    let s := if q ≤ 1 then 0 else digitCount (q - 1)
    if a * Nat.pow 10 s ≥ b then -(s : Int) else -(s : Int) - 1

def floorScaled (n : Nat) (j i : Int) : Nat :=
  (n * Nat.pow 2 j.toNat * Nat.pow 10 (-i).toNat) / (Nat.pow 2 (-j).toNat * Nat.pow 10 i.toNat)

namespace Binary

def readsBack (x : Binary) (d : Nat) (p : Int) : Bool :=
  -- the number and the interval's ends are multiples of 2^(e-2)
  let unit := x.e - 2
  let lo := if x.narrowBelow then 4 * x.m - 1 else 4 * x.m - 2
  let hi := 4 * x.m + 2
  let closed := x.m % 2 == 0
  let cLo := compareScaled d p lo unit
  let cHi := compareScaled d p hi unit
  let aboveLo := cLo == .gt || (closed && cLo == .eq)
  let belowHi := cHi == .lt || (closed && cHi == .eq)
  aboveLo && belowHi

def compareDistance (x : Binary) (lo hi : Nat) (p : Int) : Ordering :=
  -- x - lo·10^p against hi·10^p - x, all as multiples of 10^min · 2^min
  let unit := x.e
  -- 2x against (lo + hi) · 10^p: below means lo is nearer
  compareScaled (lo + hi) p (2 * x.m) unit |>.swap

def searchDigits (x : Binary) (t : Int) : Nat → Nat → Decimal
  | 0, _ => ⟨floorScaled x.m x.e 0, 0⟩
  | fuel + 1, k =>
    let p := t - (k : Int) + 1
    let lo := floorScaled x.m x.e p
    let hi := lo + 1
    let okLo := x.readsBack lo p
    let okHi := x.readsBack hi p
    if okLo && okHi then
      match x.compareDistance lo hi p with
      | .lt => ⟨lo, p⟩
      | .gt => ⟨hi, p⟩
      | .eq => if lo % 2 == 0 then ⟨lo, p⟩ else ⟨hi, p⟩
    else if okLo then ⟨lo, p⟩
    else if okHi then ⟨hi, p⟩
    else searchDigits x t fuel (k + 1)

def trimZeros (d : Decimal) : Decimal :=
  let rec go : Nat → Nat → Int → Decimal
    | 0, n, e => ⟨n, e⟩
    | fuel + 1, n, e => if n ≠ 0 ∧ n % 10 = 0 then go fuel (n / 10) (e + 1) else ⟨n, e⟩
  go (digitCount d.digits) d.digits d.exponent

def shortest (x : Binary) : Decimal :=
  if x.m = 0 then ⟨0, 0⟩
  else
    let t := floorLog10 (x.m * Nat.pow 2 x.e.toNat) (Nat.pow 2 (-x.e).toNat)
    trimZeros (x.searchDigits t 40 1)

end Binary

/-- The parts of a double: a negative sign, and a finite magnitude, an infinity or a NaN. -/
inductive Parts where
  | finite (negative : Bool) (x : Binary)
  | infinite (negative : Bool)
  | nan
  deriving Repr

def decodeBits (bits fracBits expBits : Nat) : Parts :=
  let frac := bits % Nat.pow 2 fracBits
  let ex := (bits / Nat.pow 2 fracBits) % Nat.pow 2 expBits
  let negative := bits / Nat.pow 2 (fracBits + expBits) % 2 == 1
  let bias : Int := Int.pow 2 (expBits - 1) - 1
  if ex = Nat.pow 2 expBits - 1 then (if frac = 0 then .infinite negative else .nan)
  else if ex = 0 then .finite negative ⟨frac, 1 - bias - fracBits, false⟩
  else .finite negative ⟨frac + Nat.pow 2 fracBits, (ex : Int) - bias - fracBits, frac = 0 ∧ ex > 1⟩

def Parts.ofFloat (x : Float) : Parts := decodeBits x.toBits.toNat 52 11

def Parts.ofFloat32 (x : Float32) : Parts := decodeBits x.toBits.toNat 23 8

end ColliderML.Number
