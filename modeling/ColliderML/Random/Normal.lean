import ColliderML.Random.Pcg
import ColliderML.Random.Ziggurat

/-!
# Uniform and standard normal draws

A uniform draw in `[0, 1)` takes the top 53 bits of a 64-bit output and scales
them by `2^-53`, so it is a multiple of `2^-53`.

A standard normal draw follows the ziggurat: one 64-bit output gives the
layer (its low eight bits), the sign (the next bit) and a 52-bit position
(the 52 bits above that). The position times the layer's scaled width is the
candidate. A position under the layer's edge ratio keeps the candidate at
once. Otherwise the base layer draws from the tail beyond `r` by the
exponential method, with the sign taken from the ninth bit of the position;
any other layer keeps the candidate when a uniform point of the wedge between
the two edge densities falls under the density, and starts over when not.
Both loops give up after a fixed number of rounds, each of which ends the
draw with chance above one half.
-/

namespace ColliderML

namespace Pcg

def nextDouble (g : Pcg) : Float × Pcg :=
  let (w, g) := g.next64
  ((w >>> 11).toFloat * (1.0 / 9007199254740992.0), g)

def uniforms (g : Pcg) (n : Nat) : Array Float × Pcg :=
  (List.range n).foldl (fun (acc : Array Float × Pcg) _ =>
    let (x, g) := acc.2.nextDouble
    (acc.1.push x, g)) (#[], g)

/-- `log (1 + y)` for `y > -1`, kept accurate near zero by correcting the
logarithm of the rounded sum with the ratio of the exact to the rounded
increment. -/
def logOnePlus (y : Float) : Float :=
  let w := 1 + y
  if w == 1 then y else Float.log w * y / (w - 1)

def normalFuel : Nat := 4096

def tailDraw (fuel : Nat) (g : Pcg) (negative : Bool) : Float × Pcg :=
  match fuel with
  | 0 => (if negative then -Ziggurat.tailStart else Ziggurat.tailStart, g)
  | fuel + 1 =>
    let (u, g) := g.nextDouble
    let (w, g) := g.nextDouble
    let xx := -Ziggurat.tailScale * logOnePlus (-u)
    let yy := -logOnePlus (-w)
    if yy + yy > xx * xx then
      (if negative then -(Ziggurat.tailStart + xx) else Ziggurat.tailStart + xx, g)
    else tailDraw fuel g negative

def normalWithin (fuel : Nat) (g : Pcg) : Float × Pcg :=
  match fuel with
  | 0 => (0, g)
  | fuel + 1 =>
    let (r, g) := g.next64
    let layer := (r &&& 0xff).toNat
    let r := r >>> 8
    let position := (r >>> 1) &&& 0x000fffffffffffff
    let x := position.toFloat * Ziggurat.width layer
    let x := if r &&& 1 == 1 then -x else x
    if position < Ziggurat.edgeRatio layer then (x, g)
    else if layer == 0 then tailDraw normalFuel g ((position >>> 8) &&& 1 == 1)
    else
      let (u, g) := g.nextDouble
      let lower := Ziggurat.height layer
      if (Ziggurat.height (layer - 1) - lower) * u + lower < Float.exp (-0.5 * x * x) then (x, g)
      else normalWithin fuel g

def standardNormal (g : Pcg) : Float × Pcg := normalWithin normalFuel g

def standardNormals (g : Pcg) (n : Nat) : Array Float × Pcg :=
  (List.range n).foldl (fun (acc : Array Float × Pcg) _ =>
    let (x, g) := acc.2.standardNormal
    (acc.1.push x, g)) (#[], g)

end Pcg

end ColliderML
