import ColliderML.Command.Basic
import ColliderML.PhysicsObject.Construct
import ColliderML.Metric.Rejection
import ColliderML.Jet.Algorithm

/-!
Commands on classifier metrics, tensor tallies and jet algorithms.
-/

namespace ColliderML

namespace Command

open Request

def singleArray (d : Datum) : Outcome Tensor := Tensor.ofDatum .float32 d

def significanceSearch (req : Datum) : Outcome Datum := do
  let args ← needRecord req "args"
  let params := ["cross_sections", "luminosity", "weights", "thresholds", "class_id", "name", "dtype"]
  let get ← bindArguments "MaxSignificance.__init__" params [] args
  let arg := fun (k : String) (default : Datum) => (get k).getD default
  let search ← Metric.SignificanceSearch.make (arg "cross_sections" .none) (arg "luminosity" .none)
    (arg "weights" .none) (arg "thresholds" .none) (arg "class_id" (.int 1))
  match req.field? "y_true" with
  | none => pure (.dict search.describe)
  | some truth => do
    let r ← search.run Metric.confusionAt (← singleArray truth) (← singleArray (opt req "y_pred" .none))
    pure (.dict (search.describe ++ [("result", r.result), ("significance", r.significance),
      ("selected_tpr", r.selectedTpr), ("selected_fpr", r.selectedFpr),
      ("selected_threshold", r.selectedThreshold)]))

def backgroundRejection (req : Datum) : Outcome Datum := do
  let args ← needRecord req "args"
  let params := ["efficiency", "num_thresholds", "class_id", "name", "dtype"]
  let _ ← bindArguments "RejectionAtEfficiency.__init__" params ["efficiency"] args
  let r ← Metric.rejection (← singleArray (opt req "y_true" .none)) (← singleArray (opt req "y_pred" .none))
  pure (.float r)

def thresholdsOfScores (req : Datum) : Outcome Datum := do
  let t ← Metric.scoreThresholds (← Tensor.ofValues (opt req "y_score" .none))
  pure t.toDatum

def rangeEnds (d : Datum) : Outcome (Float × Float) :=
  match d with
  | .list [a, b] => .ok (a.float?.getD 0, b.float?.getD 0)
  | .list xs =>
    if xs.length > 2 then .error (.tooManyParts 2) else .error (.tooFewParts 2 xs.length)
  | d => .error (.notIterable d.kindName)

def tallyValues (req : Datum) : Outcome Datum := do
  match opt req "fn" .none with
  | .str "histogram_fixed_width" =>
    let values ← Tensor.ofValues (opt req "values" .none)
    let (low, high) ← rangeEnds (opt req "value_range" .none)
    let bins ← match opt req "nbins" .none with
      | .int n => pure n
      | .bool b => pure (if b then 1 else 0)
      | d => throw (.notAnIndex d.kindName)
    pure (← Tally.fixedWidthCounts values low high bins).toDatum
  | .str "unique" => pure (Tally.distinct (← Tensor.ofValues (opt req "tensor" .none))).toDatum
  | _ => throw (.badRequest "unknown keras_ops fn")

def jetAlgorithmCode (req : Datum) : Outcome Datum := do
  pure (.int (← JetAlgorithm.ofDatum (opt req "name" .none)).code)

end Command

end ColliderML
