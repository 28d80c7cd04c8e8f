import ColliderML.Tensor.Index
import ColliderML.Number.Sum
import ColliderML.Number.Single
import ColliderML.Counting.Metric
import ColliderML.PhysicsObject.Construct

/-!
# Gradient boosted classifiers

A gradient boosted classifier keeps its settings in order, as given or by
default, followed by its name and, once compiled or fitted, its optimizer and
validation data. Its boosting is fixed: the raw prediction of an event is the
single-precision mean of its features less one half, and a fit only reports,
at each of the first three rounds at most, the loss and the metrics it was
compiled with.

- The loss of raw predictions is their mean squared difference from the
  labels (weighted by sample weights when given), in double precision, or in
  single precision for one-hot validation labels.
- The probability of signal is the logistic function of the raw prediction,
  in single precision; that of background is one less it.
- An accuracy compares the most likely class with the label (or with the most
  likely class of a one-hot label row), or, for binary accuracy on label
  rows, each probability read as a truth with the label entry. Other metrics
  have no plain value to report, which stops the fit.
- Validation data are given, or are the last share of the events.
- Predicting gives the probabilities of the logistic function of the mean of
  the features.
-/

namespace ColliderML

/-- How a reported metric scores probabilities against labels. -/
inductive MetricRule where
  /-- Each probability read as a truth, against label rows. -/
  | binary
  /-- The most likely class against the most likely class of the label row. -/
  | categorical
  /-- The most likely class against the label. -/
  | sparse
  /-- A metric without a plain value. -/
  | other
  deriving DecidableEq, Inhabited, Repr

/-- A metric a classifier is compiled with: by name, or as a metric object
of a class, maybe named. -/
inductive MetricGiven where
  | named (d : Datum)
  | object (cls : String) (name : Option String)
  deriving Inhabited

structure BoostedTrees where
  /-- The settings in order, the name among them. -/
  params : List (String × Datum)
  metrics : List MetricGiven := []
  deriving Inhabited

namespace BoostedTrees

def defaults : List (String × Datum) :=
  [("loss", .str "log_loss"), ("learning_rate", .float 0.1), ("n_estimators", .int 100),
   ("subsample", .int 1), ("criterion", .str "friedman_mse"), ("min_samples_split", .int 2),
   ("min_samples_leaf", .int 1), ("min_weight_fraction_leaf", .int 0), ("max_depth", .int 3),
   ("min_impurity_decrease", .int 0), ("init", .none), ("random_state", .none),
   ("max_features", .none), ("verbose", .int 0), ("max_leaf_nodes", .none),
   ("warm_start", .bool false), ("validation_fraction", .float 0.1), ("n_iter_no_change", .none),
   ("tol", .float 0.0001), ("ccp_alpha", .int 0)]

def className : String := "GradientBoostedDecisionTree"

def defaultName : String := "gradient_boosted_decision_tree"

def make (args : List (String × Datum)) : Outcome BoostedTrees := do
  let get ← bindArguments (className ++ ".__init__") ("name" :: defaults.map (·.1)) [] args
  let params := defaults.map (fun kv => (kv.1, (get kv.1).getD kv.2))
  pure { params := params ++ [("name", (get "name").getD (.str defaultName))] }

def name (m : BoostedTrees) : Datum := (m.params.lookup "name").getD .none

def set (m : BoostedTrees) (k : String) (v : Datum) : BoostedTrees :=
  { m with params := assocSet m.params k v }

def describe (m : BoostedTrees) : Datum :=
  .dict [("type", .str className), ("name", m.name), ("params", .dict m.params)]

def compile (m : BoostedTrees) (optimizer loss : Datum) (metrics : List MetricGiven) : BoostedTrees :=
  { (m.set "optimizer" optimizer |>.set "loss" loss) with metrics }

def namedClasses : List (String × String) :=
  [("binary_accuracy", "BinaryAccuracy"), ("categorical_accuracy", "CategoricalAccuracy"),
   ("sparse_categorical_accuracy", "SparseCategoricalAccuracy"),
   ("top_k_categorical_accuracy", "TopKCategoricalAccuracy"),
   ("sparse_top_k_categorical_accuracy", "SparseTopKCategoricalAccuracy"),
   ("binary_crossentropy", "BinaryCrossentropy"), ("category_crossentropy", "CategoricalCrossentropy"),
   ("sparse_category_crossentropy", "SparseCategoricalCrossentropy"),
   ("kullback_leibler_divergence", "KLDivergence"), ("poisson", "Poisson"), ("auc", "AUC"),
   ("precision", "Precision"), ("recall", "Recall"), ("true_positives", "TruePositives"),
   ("true_negatives", "TrueNegatives"), ("false_positives", "FalsePositives"),
   ("false_negatives", "FalseNegatives"), ("precision_at_recall", "PrecisionAtRecall"),
   ("sensitivity_at_specificity", "SensitivityAtSpecificity"),
   ("specificity_at_sensitivity", "SpecificityAtSensitivity")]

def ruleOfClass (cls : String) : MetricRule :=
  match cls with
  | "BinaryAccuracy" | "Accuracy" | "AUC" => .binary
  | "CategoricalAccuracy" => .categorical
  | "SparseCategoricalAccuracy" => .sparse
  | _ => .other

def tracked (categorical : Bool) (g : MetricGiven) : Outcome (String × MetricRule) :=
  match g with
  | .object cls name =>
    let fallback := if Measure.accuracyClasses.contains cls then "accuracy" else "metric"
    .ok (name.getD fallback, ruleOfClass cls)
  | .named (.str s) =>
    match namedClasses.lookup s with
    | some cls => .ok (s, ruleOfClass cls)
    | none =>
      if s == "accuracy" || s == "acc" then .ok (s, if categorical then .categorical else .sparse)
      else .error (.other .badValue ("Unknown metric: " ++ s))
  | .named d => .error (.other .badValue ("Unknown metric: " ++ d.display))

def rowMeans (x : Tensor) : Outcome (List Float) := do
  if x.ndim < 2 then throw (.axisBeyond 1 x.ndim)
  let width := Float.ofNat (x.shape.getD 1 0)
  pure (x.rows.map (fun r =>
    Single.round (Number.pairwiseSum Single.round (r.toList.map Scalar.toFloat) / width)))

def rawPredictions (x : Tensor) : Outcome (List Float) := do
  pure ((← rowMeans x).map (fun m => Single.round (m - 0.5)))

def logistic (r : Float) : Float :=
  Single.round (1 / Single.round (1 + Single.round (Float.exp (-r))))

def probabilities (r : Float) : Float × Float :=
  let p := logistic r
  (Single.round (1 - p), p)

def argmax (xs : List Float) : Nat :=
  ((xs.zipIdx.foldl (fun (best : Option (Float × Nat)) e =>
    match best with
    | none => some e
    | some b => if e.1 > b.1 then some e else some b) none).map (·.2)).getD 0

def classesOf (y : Tensor) : Tensor :=
  Tensor.ofList .int64 (y.rows.map (fun r => .int (argmax (r.toList.map Scalar.toFloat))))

def oneHot (y : Tensor) : Tensor :=
  let labels := y.toList.map Scalar.toInt
  let k := (labels.foldl max 0).toNat + 1
  let rows := labels.map (fun l => (List.range k).map (fun j => Scalar.real (if j == l.toNat then 1 else 0)))
  { dtype := .float32, shape := [labels.length, k], data := (rows.foldl (· ++ ·) []).toArray }

def average (round : Float → Float) (xs : List Float) (weights : Option (List Float)) : Outcome Float :=
  match weights with
  | none => .ok (round (Number.pairwiseSum round xs / Float.ofNat xs.length))
  | some ws => do
    if ws.length != xs.length then
      throw (.other .badType "Axis must be specified when shapes of a and weights differ.")
    let total := Number.pairwiseSum id ws
    if total == 0 then throw (.other .divisionByZero "Weights sum to zero, can't be normalized")
    pure (Number.pairwiseSum id ((xs.zip ws).map (fun p => p.1 * p.2)) / total)

/-- The loss: the mean squared difference of labels and raw predictions,
rounded to single precision when the labels are singles. -/
def lossOf (labels : Tensor) (raw : List Float) (weights : Option (List Float)) : Outcome Float := do
  let round := if labels.dtype == .float32 then Single.round else id
  let ys := labels.toList.map Scalar.toFloat
  let (ys, rs) ← if ys.length == raw.length then pure (ys, raw)
    else if ys.length == 1 then pure (List.replicate raw.length (ys.headD 0), raw)
    else if raw.length == 1 then pure (ys, List.replicate ys.length (raw.headD 0))
    else throw (.shapesMismatch (Shape.tupleText [ys.length]) (Shape.tupleText [raw.length]))
  let squares := (ys.zip rs).map (fun p =>
    let d := round (p.1 - p.2)
    round (d * d))
  average round squares weights

def score (rule : MetricRule) (labels : Tensor) (probs : List (Float × Float))
    (weights : Option (List Float)) : Outcome Float := do
  let predicted := probs.map (fun p => if p.2 > p.1 then 1 else 0)
  let hits : List Float ← match rule with
    | .other => throw (.noMember "numpy.float64" "numpy")
    | .binary =>
      if labels.ndim == 2 then
        pure ((labels.rows.zip probs).flatMap (fun e =>
          (e.1.toList.zip [e.2.1, e.2.2]).map (fun q => if q.1.toFloat == (if q.2 > 0.5 then 1 else 0) then 1 else 0)))
      else pure ((labels.toList.zip predicted).map (fun q => if q.1.toFloat == Float.ofNat q.2 then 1 else 0))
    | .categorical | .sparse =>
      if labels.ndim == 2 then
        pure ((labels.rows.zip predicted).map (fun q =>
          if argmax (q.1.toList.map Scalar.toFloat) == q.2 then 1 else 0))
      else pure ((labels.toList.zip predicted).map (fun q => if q.1.toFloat == Float.ofNat q.2 then 1 else 0))
  let ws := weights.map (fun w =>
    if labels.ndim == 2 && rule == .binary then w.flatMap (fun v => [v, v]) else w)
  average id hits ws

def rounds (m : BoostedTrees) : Outcome Nat :=
  match (m.params.lookup "n_estimators").getD .none with
  | .int n => .ok (min n 3).toNat
  | .bool b => .ok (if b then 1 else 0)
  | .float x =>
    if x > 3 then .ok 3 else .error (.other .badType "'float' object cannot be interpreted as an integer")
  | d => .error (.other .badType ("'<' not supported between instances of 'int' and '" ++ d.kindName ++ "'"))

def roundReport (pairs : List (String × MetricRule)) (categorical : Bool) (x y : Tensor)
    (weights : Option (List Float)) (val : Option (Tensor × Tensor)) : Outcome (List (String × Float)) := do
  let raw ← rawPredictions x
  let probs := raw.map probabilities
  let loss ← lossOf y raw weights
  let truth := if categorical then oneHot y else y
  let train ← pairs.mapM (fun p => do pure (p.1, ← score p.2 truth probs weights))
  let valid ← match val with
    | none => pure []
    | some (xv, yv) => do
      let labels := (if yv.ndim == 1 then yv else classesOf yv).astype truth.dtype
      let rawV ← rawPredictions xv
      let probsV := rawV.map probabilities
      let vLoss ← lossOf labels rawV none
      let vs ← pairs.mapM (fun p => do pure ("val_" ++ p.1, ← score p.2 yv probsV none))
      pure (("val_loss", vLoss) :: vs)
  pure ([("loss", loss)] ++ train ++ valid)

def history (report : List (String × Float)) (n : Nat) : Datum :=
  let names := report.foldl (fun acc e => if acc.contains e.1 then acc else acc ++ [e.1]) []
  .dict (names.map (fun k =>
    let values := (report.filter (·.1 == k)).map (fun e => Datum.float e.2)
    (k, .list ((List.replicate n values).foldl (· ++ ·) []))))

def sliceRows (t : Tensor) (start stop : Option Int) : Outcome Tensor :=
  t.takeRows (sliceRange t.length start stop)

/-- Fits the classifier: the validation data are kept as settings before the
metrics are checked. Gives the classifier after and the history. -/
def fit (m : BoostedTrees) (x y : Tensor) (validationSplit : Float) (validationData : Option (Tensor × Tensor))
    (weights : Option Tensor) : BoostedTrees × Outcome Datum :=
  let categorical := y.ndim == 2
  let setVal := fun (m : BoostedTrees) (xv yv : Tensor) =>
    (m.set "x_val" xv.toDatum).set "y_val" yv.toDatum
  let prepared : Outcome (BoostedTrees × Tensor × Tensor × Option (Tensor × Tensor)) :=
    match validationData with
    | some (xv, yv) => .ok (setVal m xv yv, x, y, some (xv, yv))
    | none =>
      if validationSplit == 0 then .ok (m, x, y, none)
      else do
        let kx := Scalar.truncate (validationSplit * Float.ofNat x.length)
        let ky := Scalar.truncate (validationSplit * Float.ofNat y.length)
        let xv ← sliceRows x (some (-kx)) none
        let xt ← sliceRows x none (some (-kx))
        let yv ← sliceRows y (some (-ky)) none
        let yt ← sliceRows y none (some (-ky))
        pure (setVal m xv yv, xt, yt, some (xv, yv))
  match prepared with
  | .error e => (m, .error e)
  | .ok (m, x, y, val) =>
    (m, do
      let pairs ← m.metrics.mapM (tracked categorical)
      let labels := if categorical then classesOf y else y
      let n ← m.rounds
      if n == 0 then return history [] 0
      let report ← roundReport pairs categorical x labels
        (weights.map (fun w => w.toList.map Scalar.toFloat)) val
      pure (history report n))

def predict (x : Tensor) : Outcome Datum := do
  let means ← rowMeans x
  pure (.list (means.map (fun r =>
    let (p0, p1) := probabilities r
    .list [.float p0, .float p1])))

def summary (m : BoostedTrees) : String :=
  "\n".intercalate (("Model: \"" ++ m.name.display ++ "\"") ::
    m.params.map (fun kv => "- " ++ kv.1 ++ ": " ++ kv.2.display)) ++ "\n"

end BoostedTrees

end ColliderML
