/-!
# Single precision

Single-precision numbers are held as the doubles equal to them. A sum,
difference, product, quotient or square root of singles is the double result
rounded once to single precision: a double carries more than twice the
significant bits of a single, so this second rounding never differs from a
direct one.

A fused multiply-add rounds once. The product of two singles is exact in a
double; the sum is then made exact by a two-sum, and a non-zero remainder is
kept by rounding the double sum to odd, which the final rounding to single
respects.

Sine and cosine of single-precision arrays follow the vectorised method of the
array library: the argument loses the nearest multiple of π/2 in three fused
steps (Cody–Waite reduction), a short polynomial gives the sine or the cosine of
what remains, and the quadrant picks and signs it. Beyond the range where the
reduction is accurate the correctly rounded value is taken.

The hyperbolic cosine and sine follow the same library: the argument loses a
multiple of ln 2/32 (cosine, with tables of 2^(±j/32)) or of ln 2 (sine), and
short polynomials in what remains finish the value in fused steps.
-/

namespace ColliderML

namespace Single

open Float.Model in
/-- A number in the canonical form of a format, rounded to nearest, ties to
even, when it has more bits than the format holds; zeros, infinities and NaN
are kept. -/
def reformat (spec : Format) : UnpackedFloat → UnpackedFloat
  | .finite s m e _ => UnpackedFloat.round spec s m e
  | u => u

def widen (x : Float32.Model) : Float :=
  .ofModel (Float.Model.pack (reformat .binary64 x.unpack))

def round (x : Float) : Float :=
  widen (Float32.Model.pack (reformat .binary32 x.toModel.unpack))

def ofBits (b : UInt32) : Float := widen (Float32.Model.ofBits b)

def add (a b : Float) : Float := round (a + b)

def sub (a b : Float) : Float := round (a - b)

def mul (a b : Float) : Float := round (a * b)

def div (a b : Float) : Float := round (a / b)

def sqrt (a : Float) : Float := round a.sqrt

/--
The single nearest to a·b + c, rounded once. The double sum `s` and its exact
remainder `e` give the value; when `e` is not zero and `s` is even, the double
next to `s` on the side of `e` is odd and stands for the value in the last
rounding.
-/
def fma (a b c : Float) : Float :=
  let p := a * b
  let s := p + c
  let bb := s - p
  let e := (p - (s - bb)) + (c - bb)
  if !s.isFinite || e == 0 || (s.toBits &&& 1) == 1 then round s
  else round (Float.ofBits (if (e > 0) == (s > 0) then s.toBits + 1 else s.toBits - 1))

def twoOverPi : Float := ofBits 0x3F22F983

def halfPiParts : Float × Float × Float := (ofBits 0xBFC90FD8, ofBits 0xB4A8885A, ofBits 0xA7C234C4)

def roundingShift : Float := ofBits 0x4B400000

def cosineCoefficients : List Float :=
  [ofBits 0x37CC730B, ofBits 0xBAB6036E, ofBits 0x3D2AAA9E, ofBits 0xBF000000, ofBits 0x3F800000]

def sineCoefficients : List Float :=
  [ofBits 0x363E9DDE, ofBits 0xB95035DD, ofBits 0x3C0888CD, ofBits 0xBE2AAAAB]

def horner (x2 : Float) : List Float → Float
  | [] => 0
  | c :: cs => cs.foldl (fun acc k => fma acc x2 k) c

def cosinePoly (x2 : Float) : Float := horner x2 cosineCoefficients

def sinePoly (r x2 : Float) : Float :=
  let p := horner x2 sineCoefficients
  fma (mul p x2) r r

/-- Which of sine or cosine: the quadrant shifted by one for the cosine. -/
inductive Trig where
  | sine
  | cosine
  deriving DecidableEq

def reductionLimit : Trig → Float
  | .sine => ofBits 0x47E55DFF
  | .cosine => ofBits 0x478B9A08

def trig (f : Trig) (x : Float) : Float :=
  if x.isNaN then x
  else if x.abs > reductionLimit f then
    round (match f with
      | .sine => Float.sin x
      | .cosine => Float.cos x)
  else
    let q := sub (add (mul x twoOverPi) roundingShift) roundingShift
    let (c1, c2, c3) := halfPiParts
    let r := fma q c3 (fma q c2 (fma q c1 x))
    let x2 := mul r r
    let k : Int := q.toInt64.toInt + (if f = .cosine then 1 else 0)
    let v := if k % 2 = 0 then sinePoly r x2 else cosinePoly x2
    if k % 4 ≥ 2 then sub 0 v else v

def sin (x : Float) : Float := trig .sine x

def cos (x : Float) : Float := trig .cosine x

def stepsPerUnit : Float := ofBits 0x4238AA3B

def stepParts : Float × Float := (ofBits 0x3CB17218, ofBits 0xAE82E308)

def sixth : Float := ofBits 0x3E2AAAAB

def risingTable : Array Float := #[
  0x3F800000, 0x3F82CD87, 0x3F85AAC3, 0x3F88980F, 0x3F8B95C2, 0x3F8EA43A, 0x3F91C3D3, 0x3F94F4F0,
  0x3F9837F0, 0x3F9B8D3A, 0x3F9EF532, 0x3FA27043, 0x3FA5FED7, 0x3FA9A15B, 0x3FAD583F, 0x3FB123F6,
  0x3FB504F3, 0x3FB8FBAF, 0x3FBD08A4, 0x3FC12C4D, 0x3FC5672A, 0x3FC9B9BE, 0x3FCE248C, 0x3FD2A81E,
  0x3FD744FD, 0x3FDBFBB8, 0x3FE0CCDF, 0x3FE5B907, 0x3FEAC0C7, 0x3FEFE4BA, 0x3FF5257D, 0x3FFA83B3
  ].map ofBits

def fallingTable : Array Float := #[
  0x3F800000, 0x3F7A83B3, 0x3F75257D, 0x3F6FE4BA, 0x3F6AC0C7, 0x3F65B907, 0x3F60CCDF, 0x3F5BFBB8,
  0x3F5744FD, 0x3F52A81E, 0x3F4E248C, 0x3F49B9BE, 0x3F45672A, 0x3F412C4D, 0x3F3D08A4, 0x3F38FBAF,
  0x3F3504F3, 0x3F3123F6, 0x3F2D583F, 0x3F29A15B, 0x3F25FED7, 0x3F227043, 0x3F1EF532, 0x3F1B8D3A,
  0x3F1837F0, 0x3F14F4F0, 0x3F11C3D3, 0x3F0EA43A, 0x3F0B95C2, 0x3F08980F, 0x3F05AAC3, 0x3F02CD87
  ].map ofBits

def hyperbolicLimit : Float := ofBits 0x42B00000

/--
The single hyperbolic cosine by the vectorised method of the array library.
With |x| = (32m + j)·ln 2/32 + r, the halves G₁ = (2^(m+j/32) + 2^(-m-j/32))/2 and
G₂ = (2^(m+j/32) - 2^(-m-j/32))/2 come from the tables, and
cosh x = G₁ + G₁·(cosh r - 1) + G₂·sinh r, with cosh r - 1 ≈ r²/2 and
sinh r ≈ r + r·r²/6, summed in fused steps.
-/
def cosh (x : Float) : Float :=
  let ax := x.abs
  if x.isNaN || ax > hyperbolicLimit then round (Float.cosh x)
  else
    let n := sub (fma ax stepsPerUnit roundingShift) roundingShift
    let (hi, lo) := stepParts
    let r := fma (0 - n) lo (fma (0 - n) hi ax)
    let k : Int := n.toInt64.toInt
    let j := (k % 32).toNat
    let m := k / 32
    let up := (risingTable.getD j 1).scaleB (m - 1)
    let down := (fallingTable.getD j 1).scaleB (0 - m - 1)
    let g1 := add up down
    let g2 := sub up down
    let r2 := mul r r
    let cm1 := mul r2 0.5
    let sr := fma r (mul r2 sixth) r
    fma g2 sr (fma g1 cm1 g1)

def invLn2 : Float := ofBits 0x3FB8AA3B

def ln2Parts : Float × Float := (ofBits 0x3F317200, ofBits 0x35BFBE8E)

def hyperbolicSineCoefficients : Float × Float × Float :=
  (ofBits 0x39500D01, ofBits 0x3C088889, sixth)

def hyperbolicCosineCoefficients : Float × Float := (ofBits 0x3AB60B61, ofBits 0x3D2AAAAB)

/--
The single hyperbolic sine by the vectorised method of the array library.
With |x| = n·ln 2 + r, the halves G₁ = (2ⁿ + 2⁻ⁿ)/2 and G₂ = (2ⁿ - 2⁻ⁿ)/2 are
powers of two put together, and sinh |x| = G₂ + (G₁·sinh r + G₂·(cosh r - 1)),
with Taylor polynomials up to r⁷ and r⁶; the sign of x is put back last.
-/
def sinh (x : Float) : Float :=
  let ax := x.abs
  if x.isNaN || ax > hyperbolicLimit then round (Float.sinh x)
  else
    let n := sub (fma ax invLn2 roundingShift) roundingShift
    let (hi, lo) := ln2Parts
    let r := fma (0 - n) lo (fma (0 - n) hi ax)
    let k : Int := n.toInt64.toInt
    let up := (1 : Float).scaleB (k - 1)
    let down := (1 : Float).scaleB (0 - k - 1)
    let g1 := add up down
    let g2 := sub up down
    let r2 := mul r r
    let (a7, a5, a3) := hyperbolicSineCoefficients
    let (a6, a4) := hyperbolicCosineCoefficients
    let ps := mul r2 (fma (fma r2 a7 a5) r2 a3)
    let pc := mul r2 (fma (fma r2 a6 a4) r2 0.5)
    let sr := fma r ps r
    let v := add g2 (fma g1 sr (mul g2 pc))
    if x < 0 then 0 - v else if x == 0 then x else v

def halfPi : Float := ofBits 0x3FC90FDB

def piSingle : Float := ofBits 0x40490FDB

/-- Coefficients of the arctangent polynomial in the square of a quotient in
[-1, 1], from that of s¹⁷ down to that of s. -/
def arctangentCoefficients : Array Float := #[
  0x3B322CC0, 0xBC7F2631, 0x3D2BC384, 0xBD987629, 0x3DD96474, 0xBE1161F8, 0x3E4CB79F,
  0xBEAAAA49, 0x3F800000].map ofBits

def isNormal (x : Float) : Bool :=
  x.isFinite && x.abs ≥ ofBits 0x00800000

/--
The single arctangent of y/x in the right quadrant, by the vectorised method of
the array library. The smaller magnitude is divided by the larger one, so that
the quotient s lies in [-1, 1] (negated, with π/2 added, when |y| is not the
smaller); s·P(s²) with a polynomial of degree eight, evaluated in even and odd
halves in s⁴, gives the arctangent; for negative x it is taken from π, and the
sign of y is put on last. Zeros, infinities, NaN and subnormal arguments take
the correctly rounded value.
-/
def atan2 (y x : Float) : Float :=
  if !(isNormal y && isNormal x) then round (Float.atan2 y x)
  else
    let ay := y.abs
    let ax := x.abs
    let (a, b, base) := if ay < ax then (ay, ax, 0) else (0 - ax, ay, halfPi)
    let s := div a b
    let s2 := mul s s
    let s4 := mul s2 s2
    let c := fun (i : Nat) => arctangentCoefficients.getD i 0
    let even := fma (fma (fma (fma s4 (c 0) (c 2)) s4 (c 4)) s4 (c 6)) s4 (c 8)
    let odd := fma (fma (fma s4 (c 1) (c 3)) s4 (c 5)) s4 (c 7)
    let r := fma s (fma odd s2 even) base
    let r := if x < 0 then add (0 - r) piSingle else r
    if y < 0 then 0 - r else r

end Single

end ColliderML
