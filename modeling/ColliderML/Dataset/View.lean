import ColliderML.Dataset.Basic
import ColliderML.PhysicsObject.Construct

/-!
# Views of a dataset

A set dataset can be read out as one array, each sample's features followed
by its target, and as a table with a column per feature and a `Target`
column. Drawing a dataset computes only what the drawing needs: the table and
a sample of its rows for a set dataset, the samples (of one target, for a
binned image) for an image dataset.
-/

namespace ColliderML

namespace Holding

def toDatum : Holding → Datum
  | .array t => t.toDatum
  | .pair h w => .list [h.toDatum, w.toDatum]

end Holding

namespace Dataset

def toColumns (ds : Dataset) : Dataset × Outcome Tensor :=
  let (ds, samples) := ds.takeSamples
  let (ds, targets) := ds.takeTargets
  (ds, do
    let s ← (← samples).toArray
    let t ← (← targets).index [.all, .newAxis]
    Tensor.sideBySide [s, t])

/-- The rows of an array as lists of numbers; an array of one axis has none
unless it holds numbers. -/
def rowsOf (t : Tensor) : List (List Float) :=
  if t.ndim ≤ 1 then (if t.length == 0 then [] else [t.toList.map Scalar.toFloat])
  else t.rows.map (fun r => r.toList.map Scalar.toFloat)

def frame (ds : Dataset) : Dataset × Outcome (List String × List (List Float)) :=
  match ds.store.layout with
  | .image _ => (ds, .error (.noMember "ImageDataset" "to_pandas"))
  | .set set =>
    let (ds, samples) := ds.takeSamples
    let table : Outcome (List String × List (List Float)) := do
      let s ← (← samples).toArray
      let names ← set.names
      let rows := rowsOf s
      let width := (rows.headD []).length
      if !rows.isEmpty && width != names.length then
        throw (.other .badValue (toString names.length ++ " columns passed, passed data had " ++
          toString width ++ " columns"))
      pure (names, rows)
    match table with
    | .error e => (ds, .error e)
    | .ok (names, rows) =>
      let (ds, targets) := ds.takeTargets
      (ds, do
        let t ← targets
        if t.length != rows.length then
          throw (.other .badValue ("Length of values (" ++ toString t.length ++
            ") does not match length of index (" ++ toString rows.length ++ ")"))
        let ts := t.toList.map Scalar.toFloat
        pure (names ++ ["Target"], (rows.zip ts).map (fun p => p.1 ++ [p.2])))

def frameDatum (table : List String × List (List Float)) : Datum :=
  .dict [("columns", Datum.ofStrings table.1),
    ("rows", .list (table.2.map (fun r => .list (r.map .float))))]

/-- Draws a set dataset: its table, a sample of its rows unless all are
wanted, and a grid of plots with a given number per line. -/
def drawSet (args : List (String × Datum)) (ds : Dataset) : Dataset × Outcome Unit :=
  match bindArguments "SetDataset.show" ["n_feature_per_line", "n_samples", "target"] [] args with
  | .error e => (ds, .error e)
  | .ok get =>
    let (ds, table) := ds.frame
    (ds, do
      let (_, rows) ← table
      match (get "n_samples").getD (.int (-1)) with
      | .int (-1) => pure ()
      | .int n =>
        if n < 0 then
          throw (.other .badValue "A negative number of rows requested. Please provide `n` >= 0.")
        else if n > rows.length then
          throw (.other .badValue "Cannot take a larger sample than population when 'replace=False'")
        else pure ()
      | .float x => if x == -1 then pure () else throw (.other .badValue "Only integers accepted as `n` values")
      | _ => pure ()
      match (get "n_feature_per_line").getD (.int 3) with
      | .int 0 => throw (.other .divisionByZero "integer division or modulo by zero")
      | _ => pure ())

/-- Draws an image dataset: the samples, those of one target alone when a
target is given for a binned image. -/
def drawImage (args : List (String × Datum)) (ds : Dataset) : Dataset × Outcome Unit :=
  match bindArguments "ImageDataset.show"
      ["limits", "show_pixels", "grid", "norm", "n_samples", "target"] [] args with
  | .error e => (ds, .error e)
  | .ok get =>
    let pixelated := match ds.store.layout with
      | .image img => img.pixelated
      | .set _ => false
    let target := (get "target").getD .none
    let (ds, samples) := ds.takeSamples
    match target, pixelated with
    | .none, _ | _, false => (ds, do let _ ← samples; pure ())
    | t, true =>
      let (ds, targets) := ds.takeTargets
      (ds, do
        let s ← (← samples).toArray
        let ts ← targets
        let wanted := t.float?
        let mask := ts.map .bool (fun x => .bool (some x.toFloat == wanted))
        let _ ← s.maskRows mask
        pure ())

end Dataset

end ColliderML
