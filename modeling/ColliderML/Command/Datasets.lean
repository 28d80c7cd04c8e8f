import ColliderML.Command.Representations
import ColliderML.Dataset.View

/-!
Commands on datasets. A dataset request makes a set dataset from observables,
or an image dataset from an image built by image steps, and runs dataset
steps in order. Each step is reported by a summary of the dataset after it;
reading samples or targets may load them, so the summary reads them first.
-/

namespace ColliderML

namespace Command

open Request

def partSummary (ds : Dataset) (p : PartName) : Dataset × Reply :=
  match ds.part p with
  | none => (ds, .data .none)
  | some st =>
    let (v, samples) := (ds.view st).takeSamples
    let (v, targets) := v.takeTargets
    (ds.setPart p (some { v with layout := st.layout }),
      .record [("samples", Reply.ofOutcome (samples.map Holding.toDatum)),
        ("targets", Reply.ofOutcome (targets.map Tensor.toDatum))])

def datasetSummary (ds : Dataset) (result : Option Datum := none) : Dataset × Reply :=
  let (ds, samples) := ds.takeSamples
  let (ds, targets) := ds.takeTargets
  let (ds, middle) := match ds.store.layout with
    | .set _ =>
      let (ds, columns) := ds.toColumns
      (ds, [("feature_names", Reply.ofOutcome ds.store.features),
        ("to_numpy", Reply.ofOutcome (columns.map Tensor.toDatum))])
    | .image _ => (ds, [("features", Reply.ofOutcome ds.store.features)])
  let head := [("samples", Reply.ofOutcome (samples.map Holding.toDatum)),
    ("targets", Reply.ofOutcome (targets.map Tensor.toDatum))] ++ middle ++
    [("config", Reply.ofOutcome ds.config), ("been_split", .data ds.beenSplit), ("seed", .data ds.seed)]
  let (ds, parts) := [PartName.train, .test, .val].foldl (fun (acc : Dataset × List (String × Reply)) p =>
    let (ds, r) := partSummary acc.1 p
    (ds, acc.2 ++ [(p.key, r)])) (ds, [])
  let tail := match result with
    | some v => [("result", Reply.data v)]
    | none => []
  (ds, .record (head ++ parts ++ tail))

def datasetReport (ds : Dataset) (r : Outcome (Option Datum)) : Dataset × Reply :=
  match r with
  | .ok result => datasetSummary ds result
  | .error e =>
    let (ds, state) := datasetSummary ds
    (ds, .failureWith e [("state", state)])

def cutsOf (step : Datum) : Outcome (Option (List Datum)) :=
  match step.field? "cuts" with
  | none | some .none => .ok none
  | some (.list cs) => .ok (some cs)
  | some _ => .error (.badRequest "cuts must be a list")

/-- One dataset step: the dataset after it and its report; an unknown step,
or a split without a whole-number seed, refuses the whole request. -/
def datasetStep (table : AliasTable) (ds : Dataset) (step : Datum) : Outcome (Dataset × Reply) := do
  let done := fun (r : Dataset × Outcome Unit) => datasetReport r.1 (r.2.map (fun _ => none))
  match step.field? "step" with
  | some (.str "read") =>
    let ev ← Events.decode (← need step "events")
    let cuts ← cutsOf step
    pure (done (ds.read table ev (opt step "target" .none) cuts))
  | some (.str "split") =>
    let seed ← match step.field? "seed" with
      | some (.int s) => pure s
      | _ => throw (.badRequest "split needs an integer seed (a null seed is random)")
    let val := match step.field? "val" with
      | none | some .none => none
      | some v => some v
    pure (done (ds.split (opt step "train" .none) (opt step "test" .none) val seed))
  | some (.str "save_load") =>
    let lazy := (opt step "lazy" (.bool true)).truthy
    match ds.saveLoad table lazy with
    | (ds, .error e) => pure (datasetReport ds (.error e))
    | (_, .ok loaded) =>
      if (opt step "targets_first" (.bool false)).truthy then
        let (loaded, targets) := loaded.takeTargets
        pure (datasetReport loaded (targets.map (fun t => some t.toDatum)))
      else pure (datasetSummary loaded)
  | some (.str "from_config") =>
    match ds.fromConfig table with
    | .ok fresh => pure (datasetSummary fresh)
    | .error e => pure (datasetReport ds (.error e))
  | some (.str "to_pandas") =>
    let (ds, r) := ds.frame
    pure (datasetReport ds (r.map (fun t => some (Dataset.frameDatum t))))
  | some (.str "show") =>
    let args := (opt step "args" (.dict [])).fields
    match ds.store.layout with
    | .set _ => pure (done (ds.drawSet args))
    | .image _ => pure (done (ds.drawImage args))
  | _ => throw (.badRequest "unknown step")

def datasetStates (table : AliasTable) (ds : Dataset) (steps : List Datum) : Outcome Reply := do
  let (ds, first) := datasetSummary ds
  let (_, states) ← steps.foldlM (fun (acc : Dataset × List Reply) step => do
    let (ds, r) ← datasetStep table acc.1 step
    pure (ds, acc.2 ++ [r])) (ds, [first])
  pure (.record [("states", .list states)])

def runSetDataset (table : AliasTable) (req : Datum) : Outcome Reply := do
  let items ← needList req "observables"
  let args ← items.mapM (observableArg table)
  let s : ObservableSet := ⟨← args.mapM (memberOf table)⟩
  datasetStates table (Dataset.new (.set s)) (← needList req "steps")

/-- image_dataset: makes an image by its steps, then a dataset of it, and runs
the dataset's steps; a failing image step fails the request. -/
def runImageDataset (table : AliasTable) (req : Datum) : Outcome Reply := do
  let img ← (← needList req "image_steps").foldlM (fun (img : Image) step => do
    match ← imageEventStep table img step with
    | (_, .failureWith e _) => throw e
    | (img, _) => pure img) (← imageOf table req)
  datasetStates table (Dataset.new (.image img)) (← needList req "steps")

end Command

end ColliderML
