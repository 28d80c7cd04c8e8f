import ColliderML.Command.Basic
import ColliderML.Boosting.Files
import ColliderML.Tensor.Decode

/-!
Commands on gradient boosted classifiers: a classifier is made from named
settings and runs its steps in order, each reporting its result or its
failure; the answer ends with the classifier as it was left. Features are
read in single precision; flat labels as whole numbers, label rows in single
precision.
-/

namespace ColliderML

namespace Command

open Request

def metricGiven (d : Datum) : MetricGiven :=
  match d.field? "metric" with
  | some (.str cls) => .object cls ((d.field? "name").bind Datum.str?)
  | _ => .named d

def featuresOf (d : Datum) : Outcome Tensor := Tensor.ofDatum .float32 d

def labelsOf (d : Datum) : Outcome Tensor :=
  match d with
  | .list items => if items.any (fun i => match i with | .list _ => true | _ => false)
      then Tensor.ofDatum .float32 d else Tensor.ofDatum .int64 d
  | d => Tensor.ofDatum .int64 d

/-- A classifier, the files it saved, and the step results so far. -/
structure BoostingRun where
  model : BoostedTrees
  files : List SavedModel := []
  results : List Reply := []

def boostingStep (run : BoostingRun) (step : Datum) : Outcome BoostingRun := do
  let m := run.model
  let finish := fun (run : BoostingRun) (r : Outcome Datum) =>
    Except.ok { run with results := run.results ++ [match r with
      | .ok v => Reply.record [("result", .data v)]
      | .error e => Reply.failure e] }
  match step.field? "step" with
  | some (.str "compile") =>
    let args := (opt step "args" (.dict [])).fields
    match bindArguments (BoostedTrees.className ++ ".compile") ["optimizer", "loss", "metrics"] [] args with
    | .error e => finish run (.error e)
    | .ok get =>
      let metrics := match (get "metrics").getD .none with
        | .list ms => ms.map metricGiven
        | _ => []
      let model := m.compile ((get "optimizer").getD .none) ((get "loss").getD (.str "log_loss")) metrics
      finish { run with model } (.ok .none)
  | some (.str "fit") =>
    let x ← featuresOf (opt step "x" (.list []))
    let y ← labelsOf (opt step "y" (.list []))
    let validationData ← match step.field? "validation_data" with
      | some (.list [xv, yv]) => do pure (some (← featuresOf xv, ← labelsOf yv))
      | _ => pure none
    let weights ← match step.field? "sample_weight" with
      | none | some .none => pure none
      | some w => do pure (some (← Tensor.ofDatum .float64 w))
    let split := ((opt step "validation_split" (.float 0)).float?).getD 0
    let (model, r) := m.fit x y split validationData weights
    finish { run with model } r
  | some (.str "predict") => finish run (do BoostedTrees.predict (← featuresOf (opt step "x" (.list []))))
  | some (.str "summary") =>
    let args := (opt step "args" (.dict [])).fields
    finish run (do
      let _ ← bindArguments "BaseEstimator.get_params" ["deep"] [] args
      pure (.str m.summary))
  | some (.str "save") =>
    let args := (opt step "args" (.dict [])).fields
    let name ← needText step "filename"
    match bindArguments (BoostedTrees.className ++ ".save") ["overwrite", "save_format"] [] args with
    | .error e => finish run (.error e)
    | .ok get =>
      let (files, r) := SavedModel.save run.files m name ((get "overwrite").getD (.bool true))
        ((get "save_format").getD (.str "pickle"))
      finish { run with files } (do let _ ← r; pure (SavedModel.listing files))
  | some (.str "load_approach") =>
    finish run (SavedModel.load run.files (← needText step "filename"))
  | _ => throw (.badRequest "unknown step")

def runBoosting (req : Datum) : Outcome Reply := do
  let model ← BoostedTrees.make (opt req "args" (.dict [])).fields
  let run ← (← needList req "steps").foldlM boostingStep { model }
  pure (.record [("steps", .list run.results), ("model", .data run.model.describe)])

end Command

end ColliderML
