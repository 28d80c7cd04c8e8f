import ColliderML.Tensor.Decode

/-!
# Sorting, distinct values and fixed-width counts

Numbers sort ascending with NaN after everything else. The distinct values of
an array are found from the positions where its sorted values change: the
values at position zero and at each such position are kept, so every value is
dropped that equals the one before it; NaN equals nothing, so each NaN stays.
Nothing to sort has no position zero, and gives the single value zero.

Evenly spaced points from a start to a stop are `start + i·step` with
`step = (stop - start) / (n - 1)`, the last point being the stop itself; when
the step is zero the points are `start + (i / (n - 1))·(stop - start)`. Counts
of fixed width split a range into bins between consecutive such points, and a
value counts in every bin whose two ends both hold it.
-/

namespace ColliderML

namespace Tally

def ascending (x y : Float) : Bool :=
  if y.isNaN then true
  else if x.isNaN then false
  else x ≤ y

def sortFloats (xs : List Float) : List Float := xs.mergeSort ascending

def dropRepeats : List Float → List Float
  | [] => []
  | [x] => [x]
  | x :: y :: rest => if y == x then dropRepeats (x :: rest) else x :: dropRepeats (y :: rest)

def changes (sorted : List Float) : List Nat :=
  ((sorted.tail.zip sorted).zipIdx.filter (fun e => e.1.1 != e.1.2)).map (·.2 + 1)

/-- The distinct values of numbers: the sorted values taken at position zero and
at every position where they change. Taking position zero of no values fails,
and gives the integer zero instead. -/
def distinct (t : Tensor) : Tensor :=
  let sorted := sortFloats (t.toList.map Scalar.toFloat)
  match (0 :: changes sorted).mapM (sorted[·]?) with
  | some xs => Tensor.ofList .float64 (xs.map Scalar.real)
  | none => Tensor.ofList .int64 [.int 0]

def evenPoints (start stop : Float) (count : Int) : Outcome (List Float) :=
  if count < 0 then .error (.negativeCount count)
  else
    let n := count.toNat
    let div := n - 1
    let delta := stop - start
    if div = 0 then .ok ((List.range n).map (fun _ => 0.0 * delta + start))
    else
      let step := delta / Float.ofNat div
      let point := fun (i : Nat) =>
        if i = div then stop
        else if step == 0 then (Float.ofNat i / Float.ofNat div) * delta + start
        else Float.ofNat i * step + start
      .ok ((List.range n).map point)

def countBetween (xs : List Float) (lower upper : Float) : Int :=
  (xs.filter (fun x => lower ≤ x && x ≤ upper)).length

def fixedWidthCounts (values : Tensor) (low high : Float) (bins : Int) : Outcome Tensor := do
  let edges ← evenPoints low high (bins + 1)
  if bins < 0 then throw (.other .badValue "negative dimensions are not allowed")
  let xs := values.toList.map Scalar.toFloat
  let counts := (edges.zip edges.tail).map (fun e => Scalar.int (countBetween xs e.1 e.2))
  pure (Tensor.ofList .int32 counts)

end Tally

end ColliderML
