import ColliderML.Number.Shortest

/-!
Writing numbers as text.

A float is written with its shortest decimal digits. Where the digits stand
relative to the point decides between positional and scientific notation; a
record of choices (`FloatStyle`) fixes that and the other spellings, and
`FloatStyle.standard` is the style of every number this library prints.
Fixed-place writing rounds the exact binary value, a half to the even neighbour.
-/

namespace ColliderML.Number

/-- The choices that turn shortest digits into text. -/
structure FloatStyle where
  /-- Positional notation is used when the point falls after at least this many
  leading zeros' worth of positions: the point position lies in (lowPoint, highPoint]. -/
  lowPoint : Int
  /-- Largest point position written positionally. -/
  highPoint : Int
  /-- Least number of exponent digits. -/
  exponentWidth : Nat
  /-- Text for an infinity, without sign. -/
  infinity : String
  /-- Text for a NaN. -/
  nan : String

/--
The standard style: positional for point positions -3 to 16 (so 0.0001 and
1000000000000000.0 are positional, 1e-05 and 1e+16 are not), always with a
digit after the point in positional form, a signed exponent of at least two
digits, and the words "inf" and "nan".
-/
def FloatStyle.standard : FloatStyle := ⟨-4, 16, 2, "inf", "nan"⟩

def padZeros (s : String) (width : Nat) : String :=
  String.ofList (List.replicate (width - s.length) '0') ++ s

def Decimal.render (style : FloatStyle) (d : Decimal) : String :=
  let ds := toString d.digits
  let n : Int := ds.length
  let point := n + d.exponent
  if style.lowPoint < point ∧ point ≤ style.highPoint then
    if point ≤ 0 then "0." ++ String.ofList (List.replicate (-point).toNat '0') ++ ds
    else if point < n then
      String.ofList (ds.toList.take point.toNat) ++ "." ++ String.ofList (ds.toList.drop point.toNat)
    else ds ++ String.ofList (List.replicate (point - n).toNat '0') ++ ".0"
  else
    let ex := point - 1
    let mant := match ds.toList with
      | [c] => String.singleton c
      | c :: rest => String.singleton c ++ "." ++ String.ofList rest
      | [] => "0"
    let sign := if ex < 0 then "-" else "+"
    mant ++ "e" ++ sign ++ padZeros (toString ex.natAbs) style.exponentWidth

def Parts.render (style : FloatStyle) : Parts → String
  | .nan => style.nan
  | .infinite neg => (if neg then "-" else "") ++ style.infinity
  | .finite neg x =>
    (if neg then "-" else "") ++
      (if x.m = 0 then "0.0" else (x.shortest).render style)

def floatText (x : Float) : String := (Parts.ofFloat x).render .standard

def float32Text (x : Float32) : String := (Parts.ofFloat32 x).render .standard

def roundHalfEven (num den : Nat) : Nat :=
  let q := num / den
  let r := num % den
  if 2 * r < den then q
  else if 2 * r > den then q + 1
  else if q % 2 == 0 then q else q + 1

def Binary.fixed (x : Binary) (places : Nat) : String :=
  let num := x.m * Nat.pow 2 x.e.toNat * Nat.pow 10 places
  let den := Nat.pow 2 (-x.e).toNat
  let n := roundHalfEven num den
  let s := padZeros (toString n) (places + 1)
  if places = 0 then s
  else
    let cut := s.length - places
    String.ofList (s.toList.take cut) ++ "." ++ String.ofList (s.toList.drop cut)

def fixedText (x : Float) (places : Nat) : String :=
  match Parts.ofFloat x with
  | .nan => "nan"
  | .infinite neg => (if neg then "-" else "") ++ "inf"
  | .finite neg b => (if neg then "-" else "") ++ b.fixed places

/-- Writes a positive finite binary number in scientific notation with a
number of digits after the point, the exact value rounded a half to the even
neighbour: `d.ddde+XX`, the exponent signed and of at least two digits. -/
def Binary.scientific (x : Binary) (places : Nat) : String :=
  let a := x.m * Nat.pow 2 x.e.toNat
  let b := Nat.pow 2 (-x.e).toNat
  let scaled := fun (t : Int) =>
    let shift : Int := (places : Int) - t
    roundHalfEven (a * Nat.pow 10 shift.toNat) (b * Nat.pow 10 (-shift).toNat)
  let t0 := floorLog10 a b
  let (t, n) := if scaled t0 ≥ Nat.pow 10 (places + 1) then (t0 + 1, scaled (t0 + 1)) else (t0, scaled t0)
  let ds := (toString n).toList
  let mant := match ds with
    | c :: rest => String.singleton c ++ (if places = 0 then "" else "." ++ String.ofList rest)
    | [] => "0"
  mant ++ "e" ++ (if t < 0 then "-" else "+") ++ padZeros (toString t.natAbs) 2

def scientificText (x : Float) (places : Nat) : String :=
  match Parts.ofFloat x with
  | .nan => "nan"
  | .infinite neg => (if neg then "-" else "") ++ "inf"
  | .finite neg b =>
    (if neg then "-" else "") ++
      (if b.m = 0 then
        "0" ++ (if places = 0 then "" else "." ++ String.ofList (List.replicate places '0')) ++ "e+00"
      else b.scientific places)

def groupDigits (n : Nat) : String :=
  let ds := (toString n).toList.reverse
  let rec go : List Char → Nat → List Char
    | [], _ => []
    | c :: rest, k => (if k > 0 && k % 3 == 0 then [',', c] else [c]) ++ go rest (k + 1)
  String.ofList (go ds 0).reverse

def groupedText (i : Int) : String :=
  (if i < 0 then "-" else "") ++ groupDigits i.natAbs

end ColliderML.Number
