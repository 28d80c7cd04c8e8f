import ColliderML.Tensor.Tally

/-!
# Decision thresholds from scores

The thresholds worth trying on a list of scores are the distinct scores from
the highest down, each lowered by a small margin, after a first threshold of
one; they are kept within zero and one. Sorting descending puts NaN first, and
a NaN differs from every neighbour.

Scores are told apart by their difference: of neighbours whose difference is
zero only the last is kept. The recipe after sorting is written for any
arithmetic (`Metric.thresholdsOfDescending`); the thresholds of a tensor of
scores are that recipe on doubles.
-/

namespace ColliderML

namespace Metric

def margin : Float := 1e-7

section Recipe

variable {α : Type} [Sub α] [OfNat α 0] [OfNat α 1] [BEq α] [LT α] [DecidableRel (α := α) (· < ·)]

def clipUnit (x : α) : α :=
  if x < 0 then 0 else if 1 < x then 1 else x

/-- Keeps the last of each run of neighbours whose difference is zero; for
doubles a NaN difference (next to a NaN, or between equal infinities) ends a run. -/
def runEnds : List α → List α
  | [] => []
  | [x] => [x]
  | x :: y :: rest => if y - x != 0 then x :: runEnds (y :: rest) else runEnds (y :: rest)

/-- The thresholds for scores sorted from the highest down: one, then the last
of each run of equal scores, each lowered by a margin and kept within zero and one. -/
def thresholdsOfDescending (m : α) (sorted : List α) : List α :=
  (1 :: runEnds sorted).map fun x => clipUnit (x - m)

end Recipe

def scoreThresholds (scores : Tensor) : Outcome Tensor := do
  if scores.ndim != 1 then throw .failedCheck
  let sorted := (Tally.sortFloats (scores.toList.map Scalar.toFloat)).reverse
  if sorted.isEmpty then throw .emptyTake
  pure (Tensor.ofList .float64 ((thresholdsOfDescending margin sorted).map Scalar.real))

end Metric

end ColliderML
