/-!
Evenly spaced points between two ends.

The points are `start + i * step` for `i = 0, …, num - 1`, with `step` the span
`stop - start` divided by the number of gaps: one less than the number of points
when the stop is included, else the number of points. When the stop is
included, the last point is the stop itself, so rounding never moves it. A step
that rounds to zero although the span does not (a span far below the gaps) is
applied as `i / gaps * span`; with no gap at all the points are `start + i * span`.
-/

namespace ColliderML

namespace Grid

def gaps (num : Nat) (endpoint : Bool) : Int :=
  if endpoint then (num : Int) - 1 else num

def spacing (start stop : Float) (num : Nat) (endpoint : Bool) : Float :=
  let g := gaps num endpoint
  if g > 0 then (stop - start) / Float.ofInt g else 0.0 / 0.0

def pointAt (start stop : Float) (num : Nat) (endpoint : Bool) (i : Nat) : Float :=
  let g := gaps num endpoint
  let delta := stop - start
  let x := Float.ofNat i
  if g > 0 then
    let div := Float.ofInt g
    let step := delta / div
    if step == 0.0 then x / div * delta + start else x * step + start
  else x * delta + start

def evenlySpaced (start stop : Float) (num : Nat) (endpoint : Bool) : List Float :=
  let points := (List.range num).map (pointAt start stop num endpoint)
  if endpoint && num > 1 then points.dropLast ++ [stop] else points

end Grid

end ColliderML
