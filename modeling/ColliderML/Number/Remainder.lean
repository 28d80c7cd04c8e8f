import ColliderML.Number.Shortest

/-!
# Remainders of doubles

The remainder of a truncated division, `x - n·y` with `n` the quotient rounded
toward zero, is always a double, so it is computed exactly: both numbers are
put on the grid of the smaller of their two powers of two, where the remainder
is one of natural numbers. It takes the sign of `x`. A NaN, an infinite `x` or
a zero `y` gives NaN, and an infinite `y` leaves `x` as it is.

The floored remainder takes the sign of `y` instead: a nonzero truncated
remainder of the other sign has `y` added to it (that sum rounded as the caller
says), and a zero remainder is a zero signed as `y`.
-/

namespace ColliderML.Number

def pi : Float := 3.141592653589793

def truncatedRemainder (x y : Float) : Float :=
  match Parts.ofFloat x, Parts.ofFloat y with
  | .finite negative a, .finite _ b =>
    if b.m = 0 then 0.0 / 0.0
    else
      let e := min a.e b.e
      let u := a.m * Nat.pow 2 (a.e - e).toNat
      let v := b.m * Nat.pow 2 (b.e - e).toNat
      let r := Float.scaleB (Float.ofNat (u % v)) e
      if negative then -r else r
  | .finite _ _, .infinite _ => x
  | _, _ => 0.0 / 0.0

/-- The remainder of `x` by `y` with the quotient rounded toward minus
infinity; `round` rounds the sum that moves a remainder to the sign of `y`. -/
def flooredRemainder (round : Float → Float) (x y : Float) : Float :=
  let r := truncatedRemainder x y
  if y == 0 then r
  else if r == 0 then (if y < 0 then -0.0 else 0.0)
  else if (y < 0) != (r < 0) then round (r + y)
  else r

end ColliderML.Number
