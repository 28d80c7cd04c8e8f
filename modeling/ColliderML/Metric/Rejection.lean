import ColliderML.Metric.Significance

/-!
# Background rejection

Labels given as classes are first spread into one column per class of the
scores. The rejection is one over the share of events that are not both
labelled background and scored as background, where an event is labelled and
scored by the last column: labelled background when that column's label is
zero, scored as background when its score is at most one half.
-/

namespace ColliderML

namespace Metric

def spreadLabels (truth : Tensor) (classes : Nat) : Outcome Tensor := do
  let labels := truth.toList.map Scalar.toInt
  let rows := labels.map (fun k =>
    let target : Int := if k < 0 then k + classes else k
    (List.range classes).map (fun (j : Nat) => Scalar.int (if (j : Int) == target then 1 else 0)))
  pure { dtype := .int32, shape := [labels.length, classes], data := rows.flatten.toArray }

def lastColumn (t : Tensor) : List Float :=
  match t.shape with
  | [_, m] => t.rows.map (fun r => (r.get [m - 1]).toFloat)
  | _ => t.toList.map Scalar.toFloat

def rejection (truth scores : Tensor) : Outcome Float := do
  let truth ← if truth.shape == scores.shape then pure truth
    else spreadLabels truth (scores.shape.getLast?.getD 1)
  let labels := lastColumn truth
  let preds := lastColumn scores
  let n := Float.ofNat labels.length
  let kept := ((labels.zip preds).filter (fun e => e.1 == 0 && e.2 ≤ 0.5)).length
  let specificity := Float.ofNat kept / n
  pure (1 / (1 - specificity))

end Metric

end ColliderML
