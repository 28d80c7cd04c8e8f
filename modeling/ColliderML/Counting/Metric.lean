import ColliderML.Tensor.Basic
import ColliderML.Error

/-!
# Running measures of predictions

A measure follows labels and predictions over the steps it sees. An accuracy
counts the entries where a label equals the prediction read as a truth (above
one half), and gives their share; a total adds up the products of labels and
predictions, which for one-hot rows counts the rows predicted right. Accuracy
classes are named `accuracy` unless named otherwise, all others `metric`.
-/

namespace ColliderML

inductive MeasureRule where
  | accuracy
  | total
  deriving DecidableEq, Inhabited, Repr

structure Measure where
  name : String
  rule : MeasureRule
  hits : Float := 0
  seen : Float := 0
  deriving Inhabited

namespace Measure

def accuracyClasses : List String :=
  ["Accuracy", "BinaryAccuracy", "CategoricalAccuracy", "SparseCategoricalAccuracy", "AUC"]

def ofClass (cls : String) (name : Option String) : Measure :=
  if accuracyClasses.contains cls then { name := name.getD "accuracy", rule := .accuracy }
  else { name := name.getD "metric", rule := .total }

def update (m : Measure) (labels predictions : Tensor) : Measure :=
  let pairs := labels.toList.zip predictions.toList
  match m.rule with
  | .accuracy =>
    let hit := fun (e : Scalar × Scalar) =>
      if e.1.toFloat == (if e.2.toFloat > 0.5 then 1.0 else 0.0) then 1.0 else 0.0
    { m with hits := pairs.foldl (fun acc e => acc + hit e) m.hits,
             seen := m.seen + Float.ofNat pairs.length }
  | .total =>
    { m with hits := pairs.foldl (fun acc e => acc + e.1.toFloat * e.2.toFloat) m.hits }

def result (m : Measure) : Float :=
  match m.rule with
  | .accuracy => if m.seen == 0 then 0 else m.hits / m.seen
  | .total => m.hits

end Measure

end ColliderML
