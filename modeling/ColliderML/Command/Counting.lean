import ColliderML.Command.Basic
import ColliderML.Counting.Model

/-!
Commands on cuts of one feature and on cut-and-count classifiers. Features
and labels are given as nested lists, read in single precision.
-/

namespace ColliderML

namespace Command

open Request

def singleValues (d : Datum) : Outcome Tensor := Tensor.ofDatum .float32 d

def markValue (d : Datum) : Outcome Float :=
  match d.float? with
  | some x => .ok x
  | none => .error (.other .badType ("must be real number, not " ++ d.kindName))

/-- cut_layer: makes a cut on one feature and describes it; with features it
also applies the cut both ways and gives their shape. -/
def featureCutReport (req : Datum) : Outcome Datum := do
  let args ← needRecord req "args"
  let get := fun (k : String) => args.lookup k
  let (cut, _) ← FeatureCut.make 0 (get "cut") (get "name") (get "count") (get "cut_left")
    (get "cut_right") (get "case") (get "feature_id")
  let summary ← cut.summary
  match req.field? "x" with
  | none => pure summary
  | some xd =>
    let x ← singleValues xd
    let applied ← cut.applyCut x (← markValue (opt req "cut_mark" (.float (-1.0))))
    pure (.dict (summary.fields ++ [("call", (cut.mark x 1 0).toDatum),
      ("apply_cut", applied.toDatum),
      ("output_shape", .list (x.shape.map (fun (n : Nat) => Datum.int n)))]))

def cutSummaries (m : CountingModel) : Outcome Datum := do
  pure (.list (← m.cuts.mapM FeatureCut.summary))

def countingReply (m : CountingModel) (r : Outcome Datum) : Reply :=
  match r with
  | .error e => .failure e
  | .ok v =>
    match cutSummaries m with
    | .ok layers => .data (.dict [("result", v), ("layers", layers)])
    | .error e => .failure e

/-- One step of a classifier request: the classifier after it and the reply;
an unknown step refuses the whole request. -/
def countingStep (x : Tensor) (y : Option Tensor) (m : CountingModel) (step : Datum) :
    Outcome (CountingModel × Reply) :=
  let labels := if (opt step "with_y" (.bool false)).truthy then y else none
  let finish := fun (m : CountingModel) (r : Outcome Datum) => Except.ok (m, countingReply m r)
  match step.field? "step" with
  | some (.str "call") =>
    let (m, out) := m.predict x labels
    finish m (do pure (← out).toDatum)
  | some (.str "parallel_call") =>
    let (cuts, out) := m.parallel x labels
    let m := { m with cuts }
    finish m (do pure (← out).toDatum)
  | some (.str "sequential_call") =>
    let (cuts, out) := m.sequence x labels
    let m := { m with cuts }
    finish m (do pure (← out).toDatum)
  | some (.str "train_step") =>
    let (m, out) := m.trainStep x y
    finish m (do pure (.dict ((← out).map (fun kv => (kv.1, Datum.float kv.2)))))
  | some (.str "find_best_cut") =>
    finish m (do
      let f ← CountingModel.whole (opt step "feature" (.int 0))
      let column ← x.index [.all, .pos f]
      let (lower, upper, way) ← CutSearch.best (CountingModel.values column) y
        (← CountingModel.whole m.bins)
      pure (.list [.float lower, .float upper, .float way]))
  | some (.str "get_config") => finish m (.ok m.config)
  | _ => .error (.badRequest "unknown step")

def measureOf (d : Datum) : Outcome Measure :=
  match d.field? "metric" with
  | some (.str cls) => .ok (Measure.ofClass cls ((d.field? "name").bind Datum.str?))
  | _ => .error (.badRequest "a metric needs a class name")

def runCounting (req : Datum) : Outcome Reply := do
  let args ← needRecord req "args"
  let model ← match args.lookup "n_observables" with
    | none => pure (Except.error (Error.missingParameters "CutAndCount.__init__" ["n_observables"]))
    | some n => pure (CountingModel.make n ((args.lookup "n_bins").getD (.int 50))
        ((args.lookup "topology").getD (.str "parallel")) (args.lookup "name"))
  match model with
  | .error e => pure (.failure e)
  | .ok m =>
    let measures ← match opt req "metrics" .none with
      | .list ms => ms.mapM measureOf
      | _ => pure []
    let m := { m with measures }
    let x ← singleValues (opt req "x" (.list []))
    let y ← match req.field? "y" with
      | none | some .none => pure none
      | some d => do pure (some (← singleValues d))
    let (_, replies) ← (← needList req "steps").foldlM (fun (acc : CountingModel × List Reply) step => do
      let (m, r) ← countingStep x y acc.1 step
      pure (m, acc.2 ++ [r])) (m, [])
    pure (.record [("steps", .list replies)])

end Command

end ColliderML
