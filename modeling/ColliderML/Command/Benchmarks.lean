import ColliderML.Command.Basic
import ColliderML.Observable.Build
import ColliderML.Observable.Alias
import ColliderML.Digest.Fingerprint
import ColliderML.Coverage.Report
import ColliderML.Counting.Model
import ColliderML.Random.Normal
import ColliderML.Boosting.Model
import ColliderML.Metric.Rejection
import ColliderML.Representation.Image.Read

/-!
The benchmark commands. A benchmark is a function named `bench_<what>`, or
`_DELETED_bench_<what>` for one that the measuring tools no longer run; each
takes one size and gives a function whose result is the answer.

Three benchmarks are worked out from the library itself. Name parsing
parses a cycle of physics object names of ten shapes and sums, over the
names, the lengths of the name as given and as parsed, of the constructor
text, of the branch texts, the number of slices, and two; it reports the sum
and the parsed names. Observable construction parses a cycle of observable names, built from five physics
objects and eight kinematic classes, and for each reports its name and
configuration, its class, the name of the observable rebuilt from that
configuration and whether both equal the parsed one; ten fixed names follow
with their names and configurations. The network benchmark reports the shapes
of a perceptron and a convolutional network for each model size. The layer
benchmark draws two hundred rows of two standard normal features from the
generator seeded with 3, lays cuts over them (the `i`-th of `n` on feature
`i mod 2`, keeping values in its `i mod 4`-th way around `-1 + 2i/n`), and
reports the cuts, the number of values they keep, and the prediction totals
of an unfitted two-feature cut-and-count classifier on the same rows. The
tree benchmark draws `n` rows of four standard normal features from the
generator seeded with 4, labels each row by whether its first feature is
positive, and reports the names of the metrics a fit tracks (twice), the fit's
loss at each of its three reporting rounds to six decimals, the shape of the
predictions and the classifier's name. The metric benchmark draws `n` labels
of zero or one and then `n` uniform scores from the generator seeded with 5,
and reports six pairs of significances (five weighted searches at one low
threshold, the first of them again, each beside the default search), the
number of thresholds the scores give, and twelve background rejections. The
image benchmark draws, from the generator seeded with 0, heights and widths
uniform in `[-1, 1)` and weights uniform in `[0, 1)` for twenty-five
particles in each of `n` events, bins them into sixteen by sixteen pixels over
`[-1, 1]`, and reports the totals of the counting and weighted grids, those of
the first event, and the sum of the binned heights. The others work on data
that the benchmark generates for itself, which is not part of the library.

The measuring tools take a table of benchmarks with their default sizes. The
timing tool reports, for each, whether a call with its defaults fails. The
semantic check reports the fingerprints of the results: twice at the
defaults, once for each argument set, and of each argument set's values; a
positive-control run reports only one fingerprint at the defaults. The
coverage tool reports the package's statements that the calls run, the
defaults first and then each argument set, up to the first that fails; a call
that fails before reaching the package runs none. For name parsing,
observable reading and the layer benchmark, the statements a call runs are
taken from the collector's measurement of the package.
-/

namespace ColliderML

inductive Benchmark where
  | objectParsing
  | observableConstruction
  | observableRead
  | cutParsing
  | imageRepresentation
  | setDatasetRoundtrip
  | imageDatasetRoundtrip
  | runParsing
  | cutLayers
  | setRepresentationRoundtrip
  | retiredTrees
  | retiredMetrics
  | retiredOperations
  | retiredNetworks
  deriving DecidableEq, Repr

namespace Benchmark

def all : List Benchmark :=
  [.objectParsing, .observableConstruction, .observableRead, .cutParsing, .imageRepresentation,
   .setDatasetRoundtrip, .imageDatasetRoundtrip, .runParsing, .cutLayers,
   .setRepresentationRoundtrip, .retiredTrees, .retiredMetrics, .retiredOperations,
   .retiredNetworks]

def retired : Benchmark → Bool
  | .retiredTrees | .retiredMetrics | .retiredOperations | .retiredNetworks => true
  | _ => false

def stem : Benchmark → String
  | .objectParsing => "physics_object_parsing"
  | .observableConstruction => "observable_construction"
  | .observableRead => "observable_read"
  | .cutParsing => "cut_expression_parsing"
  | .imageRepresentation => "image_representation"
  | .setDatasetRoundtrip => "set_dataset_roundtrip"
  | .imageDatasetRoundtrip => "image_dataset_roundtrip"
  | .runParsing => "madgraph5_run_parsing"
  | .cutLayers => "cut_layer_and_count"
  | .setRepresentationRoundtrip => "set_representation_roundtrip"
  | .retiredTrees => "gbdt_tree"
  | .retiredMetrics => "metrics"
  | .retiredOperations => "operations"
  | .retiredNetworks => "networks_and_misc"

def name (b : Benchmark) : String :=
  (if b.retired then "_DELETED_bench_" else "bench_") ++ b.stem

def parameter : Benchmark → String
  | .objectParsing => "n_names"
  | .observableConstruction => "n_specs"
  | .observableRead | .imageRepresentation | .retiredOperations => "n_events"
  | .cutParsing => "n_exprs"
  | .setDatasetRoundtrip | .imageDatasetRoundtrip => "n_rows"
  | .runParsing => "n_runs"
  | .cutLayers => "n_layers"
  | .setRepresentationRoundtrip => "n_obs"
  | .retiredTrees | .retiredMetrics => "n_samples"
  | .retiredNetworks => "n_models"

def ofName? (s : String) : Option Benchmark := all.find? (·.name == s)

def named (s : String) : Outcome Benchmark :=
  match ofName? s with
  | some b => .ok b
  | none => .error (.badRequest ("unknown bench " ++ s))

/-- A size as the benchmark counts with it: a whole number, a truth value as 0
or 1, and anything else refused as not an integer. -/
def sizeOf (d : Datum) : Outcome Int :=
  match d with
  | .int n => .ok n
  | .bool b => .ok (if b then 1 else 0)
  | d => .error (.notAnIndex d.kindName)

def sizeOfCall (b : Benchmark) (args : List (String × Datum)) : Outcome Int := do
  let get ← bindArguments b.name [b.parameter] [b.parameter] args
  sizeOf ((get b.parameter).getD .none)

/-- The i-th name of the parsing cycle: ten shapes of name, filled with the
numbers a = i mod 7, a + 3 and i mod 4. -/
def parsingName (i : Nat) : String :=
  let a := toString (i % 7)
  let b := toString (i % 7 + 3)
  let c := toString (i % 4)
  match i % 10 with
  | 0 => "Jet" ++ a
  | 1 => "FatJet" ++ a ++ ":" ++ b
  | 2 => "Electron"
  | 3 => "Muon" ++ a ++ ":"
  | 4 => "Photon:" ++ a
  | 5 => "Jet" ++ a ++ ".Constituents"
  | 6 => "FatJet" ++ a ++ ":" ++ b ++ ".Particles" ++ c ++ ":"
  | 7 => "Jet" ++ a ++ ",Muon" ++ b
  | 8 => "Jet" ++ a ++ ",Electron" ++ b ++ ":" ++ c
  | _ => "FatJet" ++ a ++ ".Constituents,Jet" ++ b

def branchLength (o : PhysicsObject) : Nat :=
  match o.branch with
  | .name s => s.length
  | .group items => (items.map (fun b => b.text.length)).foldr (· + ·) 0

def parsingWeight (name : String) (o : PhysicsObject) : Nat :=
  name.length + o.name.length + o.text.length + o.slices.length + branchLength o + 2

def parsing (n : Int) : Outcome Datum := do
  let names := (List.range n.toNat).map parsingName
  let objects ← names.mapM PhysicsObject.ofName
  let total := ((names.zip objects).map (fun p => parsingWeight p.1 p.2)).foldr (· + ·) (0 : Nat)
  pure (.list [.int total, .list (objects.map (fun o => .str o.name))])

def constructionObjects : List String :=
  ["Jet0", "FatJet1:3", "Electron", "Muon2", "FatJet0.Constituents"]

def constructionClasses : List String := ["Pt", "Eta", "Phi", "M", "E", "Px", "Py", "Pz"]

def constructionExtras : List String :=
  ["Jet.Size", "Jet0.Charge", "FatJet.BTag", "Muon0.TauTag", "FatJet0.Tau1", "FatJet0.Tau2",
   "FatJet0.Tau21", "FatJet0.Tau32", "Jet0,Jet1.InvMass", "Jet0,Jet1.DeltaR"]

def constructionName (i : Nat) : String :=
  constructionObjects.getD (i % 5) "" ++ "." ++ constructionClasses.getD (i % 8) ""

def parseNamed (table : AliasTable) (name : String) : Outcome Observable := do
  match ← Observable.parse table name [] with
  | some o => pure o
  | none => throw (.noMember "NoneType" "name")

/-- The report of one name of the construction cycle: name, configuration,
class, the rebuilt observable's name, and the two equalities. -/
def constructionEntry (table : AliasTable) (name : String) : Outcome Datum := do
  let o ← parseNamed table name
  let fields := match o.config with
    | .dict fs => fs
    | _ => []
  let rebuilt ← Observable.ofConfig o.kind fields
  let again ← parseNamed table o.name
  pure (.list [.str o.name, o.config, o.className, .str rebuilt.name,
    .bool (← Observable.equals o rebuilt), .bool (← Observable.equals o again)])

def extraEntry (table : AliasTable) (name : String) : Outcome Datum := do
  let o ← parseNamed table name
  pure (.list [.str o.name, o.config])

def construction (table : AliasTable) (n : Int) : Outcome Datum := do
  let cycle ← (List.range n.toNat).mapM (fun i => constructionEntry table (constructionName i))
  let extras ← constructionExtras.mapM (extraEntry table)
  pure (.list (cycle ++ extras))

/-- The network shapes for a number of model sizes: for each, the input and
output shapes of a perceptron on inputs of 4 + i features, the input shape of
a convolutional network on 8×8 images of one channel, and its output shape
for one image. -/
def networkShapes (n : Int) : Datum :=
  let shape := fun (xs : List Int) => Datum.list (xs.map Datum.int)
  .list ((List.range n.toNat).flatMap (fun (i : Nat) =>
    [.list [shape [4 + (i : Int)], shape [2, 2]], shape [8, 8, 1], shape [1, 2]]))

/-- The rows the layer benchmark works on: two hundred rows of two standard
normal features, drawn in row order from the generator seeded with 3. -/
def layerRows : Tensor :=
  let xs := (Pcg.standardNormals (Pcg.ofSeed 3) 400).1
  { dtype := .float64, shape := [200, 2], data := xs.map Scalar.real }

/-- The `i`-th of `n` layer cuts: named `Li`, with lower edge `-1 + 2i/n` and
upper edge one above it, way `i mod 4`, on feature `i mod 2`. -/
def layerCut (n i : Nat) : Outcome FeatureCut := do
  let lower := -1 + 2 * Float.ofNat i / Float.ofNat n
  let way : Int := (i % 4 : Nat)
  let feature : Int := (i % 2 : Nat)
  let (c, _) ← FeatureCut.make 0 none (some (.str ("L" ++ toString i))) none
    (some (.float lower)) (some (.float (lower + 1))) (some (.int way)) (some (.int feature))
  pure c

def entrySum (t : Tensor) : Float := (t.toList.map Scalar.toFloat).foldl (· + ·) 0

/-- The layer benchmark for a number of layers: the cuts written out, the
number of values they keep, and the totals of all and of the signal entries
of an unfitted two-feature classifier's one-hot predictions. -/
def layerCounts (n : Int) : Outcome Datum := do
  let x := layerRows
  let cuts ← (List.range n.toNat).mapM (layerCut n.toNat)
  let texts ← cuts.mapM FeatureCut.describe
  let kept ← cuts.mapM (fun c => c.applyCut x 0)
  let model ← CountingModel.make (.int 2) (.int 50) (.str "parallel") none
  let predicted ← (model.predict x none).2
  let signal ← predicted.index [Index.all, .pos 1]
  pure (.list [Datum.ofStrings texts, .float ((kept.map entrySum).foldl (· + ·) 0),
    .float (entrySum predicted), .float (entrySum signal)])

def sampleCount (n : Int) : Outcome Nat :=
  if n < 0 then .error (.other .badValue "negative dimensions are not allowed") else .ok n.toNat

/-- The rows and labels the tree benchmark works on: `n` rows of four
standard normal features, drawn in row order from the generator seeded with 4,
each labelled one when its first feature is positive. -/
def treeRows (n : Nat) : Array Float × List Int :=
  let xs := (Pcg.standardNormals (Pcg.ofSeed 4) (4 * n)).1
  (xs, (List.range n).map (fun i => if xs.getD (4 * i) 0 > 0 then 1 else 0))

def treeRaw (xs : Array Float) (n : Nat) : List Float :=
  (List.range n).map (fun i =>
    Number.pairwiseSum id ((List.range 4).map (fun j => xs.getD (4 * i + j) 0)) / 4 - 0.5)

def treeMetrics : List String :=
  ["accuracy", "auc", "binary_accuracy", "categorical_accuracy", "precision", "recall"]

def sixDecimals (x : Float) : Float :=
  match Text.readFloat (Number.fixedText x 6) with
  | .ok y => y
  | .error _ => x

def trees (n : Int) : Outcome Datum := do
  let rows ← sampleCount n
  let (xs, labels) := treeRows rows
  let y : Tensor := { dtype := .int64, shape := [rows], data := (labels.map Scalar.int).toArray }
  let loss ← BoostedTrees.lossOf y (treeRaw xs rows) none
  let names := ("loss" :: treeMetrics)
  let keys := (names ++ names.map ("val_" ++ ·)).mergeSort (fun a b => decide (a ≤ b))
  pure (.list [Datum.ofStrings keys, Datum.ofStrings keys,
    .list (List.replicate 3 (.float (sixDecimals loss))), .list [.int n, .int 2],
    .str "gradient_boosted_decision_tree"])

/-- The labels and scores the metric benchmark works on: `n` labels of zero
or one, then `n` uniform scores, from the generator seeded with 5. -/
def metricData (n : Nat) : Tensor × Tensor :=
  let (labels, g) := Pcg.drawsBelow (Pcg.ofSeed 5) 2 n
  let scores := (Pcg.uniforms g n).1
  ({ dtype := .int64, shape := [n], data := labels.map (fun (v : Nat) => Scalar.int (Int.ofNat v)) },
   { dtype := .float64, shape := [n], data := scores.map Scalar.real })

/-- The `k`-th weighted search of the metric benchmark: at luminosity ten, a
signal cross section of `0.7 - 0.05k` against a background of `0.3 + 0.05k`,
tried at the one threshold `0.05`. -/
def weightedSearch (k : Nat) : Outcome Metric.SignificanceSearch :=
  let step := 0.05 * Float.ofNat k
  Metric.SignificanceSearch.make (.list [.float (0.3 + step), .float (0.7 - step)])
    (.float 10.0) .none (.list [.float 0.05]) (.int 1)

/-- The metric benchmark for a number of samples: for the five weighted
searches and the first once more, the best significance beside that of the
default search; then the number of thresholds the scores give, and the
background rejection at each of twelve efficiencies, which the rejection does
not depend on. -/
def metrics (n : Int) : Outcome Datum := do
  let (truth, scores) := metricData (← sampleCount n)
  let plain ← Metric.SignificanceSearch.make .none .none .none .none (.int 1)
  let base := (← plain.run Metric.confusionAt truth scores).result
  let pairs ← ([0, 1, 2, 3, 4, 0] : List Nat).mapM (fun k => do
    let search ← weightedSearch k
    pure [(← search.run Metric.confusionAt truth scores).result, base])
  let thresholds ← Metric.scoreThresholds scores
  let rejection ← Metric.rejection truth scores
  pure (.list (pairs.flatten ++ [.int thresholds.length] ++
    List.replicate 12 (.float rejection)))

/-- The heights, widths and weights the image benchmark draws for `n` events
of twenty-five particles each, from the generator seeded with 0: heights and
then widths uniform in `[-1, 1)`, then weights uniform in `[0, 1)`. -/
def imageData (n : Nat) : Tensor × Tensor × Tensor :=
  let (hs, g) := Pcg.uniforms (Pcg.ofSeed 0) (25 * n)
  let (ws, g) := Pcg.uniforms g (25 * n)
  let cs := (Pcg.uniforms g (25 * n)).1
  let grid := fun (xs : Array Float) =>
    ({ dtype := .float64, shape := [n, 25], data := xs.map Scalar.real } : Tensor)
  let spread := fun (u : Float) => -1 + 2 * u
  (grid (hs.map spread), grid (ws.map spread), grid cs)

def binnedImage (img : Image) (heights widths : Tensor) (weights : Option Tensor) :
    Outcome Image := do
  let img ← img.inject heights widths weights none
  let edges : Datum := .list [.float (-1.0), .float 1.0]
  let (img, failure) := img.pixelate (.list [.int 16, .int 16]) (.list [edges, edges])
  match failure with
  | some e => throw e
  | none => pure img

def gridsOf (img : Image) : Outcome Tensor := do
  match ← img.valueArrays with
  | .grids t => pure t
  | .pair _ _ => throw (.noMember "tuple" "sum")

def arraySum (t : Tensor) : Float := Number.pairwiseSum id (t.toList.map Scalar.toFloat)

/-- The image benchmark for a number of events: the totals of the counting
and of the weighted pixel grids, the totals of the first event's two grids,
the sum of the heights once moved to their pixel centres, and whether the
image is still good. -/
def imageTotals (table : AliasTable) (n : Int) : Outcome Datum := do
  let events ← sampleCount n
  let (heights, widths, weights) := imageData events
  let height ← parseNamed table "FatJet0.Constituents.Phi"
  let width ← parseNamed table "FatJet0.Constituents.Eta"
  let channel ← parseNamed table "FatJet0.Constituents.Pt"
  let plain : Image := { height := .observable height, width := .observable width }
  let counts ← gridsOf (← binnedImage plain heights widths none)
  let img ← binnedImage { plain with channel := .observable channel } heights widths (some weights)
  let sums ← gridsOf img
  if events == 0 then throw (.indexBeyondAxis 0 0 0)
  let first := fun (t : Tensor) => t.index [.pos 0]
  let centred := img.heightValue.getD heights
  pure (.list [.list [.float (arraySum counts), .float (arraySum sums)],
    .float (arraySum (← first counts)), .float (arraySum (← first sums)),
    .float (arraySum centred), img.status])

def run (table : AliasTable) (b : Benchmark) (n : Int) : Outcome Datum :=
  match b with
  | .objectParsing => parsing n
  | .observableConstruction => construction table n
  | .retiredNetworks => .ok (networkShapes n)
  | .cutLayers => layerCounts n
  | .retiredTrees => trees n
  | .retiredMetrics => metrics n
  | .imageRepresentation => imageTotals table n
  | b => .error (.badRequest (b.name ++ " works on data that it generates itself"))

end Benchmark

/-- A benchmark as the measuring tools take it: its default arguments and the
argument sets it is measured at. -/
structure MeasuredBenchmark where
  bench : Benchmark
  defaults : List (String × Datum)
  params : List Datum

namespace MeasuredBenchmark

def ofEntry (entry : String × Datum) : Outcome MeasuredBenchmark := do
  let b ← Benchmark.named entry.1
  if b.retired then throw (.badRequest ("unknown bench " ++ entry.1))
  let defaults := match entry.2.field? "defaults" with
    | some (.dict fs) => fs
    | _ => []
  let params := match entry.2.field? "params" with
    | some (.list ps) => ps
    | _ => []
  pure { bench := b, defaults, params }

/-- Whether a call with the defaults fails: an argument other than the size, or
a size that is not an integer. -/
def defaultsFail (m : MeasuredBenchmark) : Bool :=
  m.defaults.any (fun kv => kv.1 != m.bench.parameter ||
    match Benchmark.sizeOf kv.2 with
    | .ok _ => false
    | .error _ => true)

def timing (m : MeasuredBenchmark) : Datum :=
  .dict [("error", .bool m.defaultsFail), ("hot_ext_error", .list [])]

def valueText : Datum → String
  | .str s => s
  | d => d.display

def tagOf (p : Datum) : String :=
  let fields := p.fields.mergeSort (fun a b => decide (a.1 ≤ b.1))
  ",".intercalate (fields.map (fun kv => kv.1 ++ "=" ++ valueText kv.2))

def argumentsFingerprint (p : Datum) : String :=
  Sha256.hexDigest (String.join (p.fields.map (fun kv => Fingerprint.walk kv.2)))

def typeName : Datum → String
  | .none => "NoneType"
  | .bool _ => "bool"
  | .int _ => "int"
  | .float _ => "float"
  | .str _ => "str"
  | .list _ => "list"
  | .dict _ => "dict"

def resultOf (table : AliasTable) (m : MeasuredBenchmark) (args : List (String × Datum)) :
    Outcome Datum := do
  Benchmark.run table m.bench (← Benchmark.sizeOfCall m.bench args)

def semantics (table : AliasTable) (control : Bool) (m : MeasuredBenchmark) : Outcome Datum := do
  let base ← resultOf table m m.defaults
  let fp := Fingerprint.ofDatum base
  if control then
    pure (.dict [("fp_by_param", .dict []), ("fp_stable", .list [.str fp]), ("param_fps", .list []),
      ("ret_type", .str (typeName base)), ("timed", .list [])])
  else
    let byParam ← m.params.mapM (fun p => do
      pure (tagOf p, Datum.str (Fingerprint.ofDatum (← resultOf table m p.fields))))
    let tags := (m.params.map tagOf).mergeSort (fun a b => decide (a ≤ b))
    pure (.dict [("fp_by_param", .dict byParam), ("fp_stable", .list [.str fp, .str fp]),
      ("param_fps", .list (m.params.map (fun p => .str (argumentsFingerprint p)))),
      ("ret_type", .str (typeName base)), ("timed", Datum.ofStrings ("<default>" :: tags))])

def readingNames : List String :=
  ["Jet0.Pt", "Jet.Pt", "Jet0:3.Eta", "Jet:6.M", "Jet0:6.Phi", "FatJet.Phi", "Tower.E",
   "MissingET0.Px", "Electron0.Charge", "Jet.BTag", "Muon.TauTag", "Jet.Size", "FatJet0.Tau1",
   "FatJet0.Tau2", "FatJet0:2.Tau21", "FatJet0:6.Tau1", "Jet0,Jet1.DeltaR", "Jet0,Muon0.InvMass"]

/-- The statements the reading benchmark runs: building, reading and describing
each of its observables, and asking for a size the events do not hold. -/
def readingStatements (measured : Coverage.Measurement) (table : AliasTable) :
    Outcome (List Coverage.Statement) := do
  let traces ← readingNames.mapM (fun name => do
    let obs ← Benchmark.parseNamed table name
    match obs.physicsObject with
    | some o =>
      let aliased := (table.find? (Observable.splitName name).2).isSome
      pure (measured.reading obs.kind aliased o)
    | none => throw (.noMember "NoneType" "branch"))
  pure (traces.foldl Coverage.addStatements (Coverage.addStatements [] measured.missingSize))

/-- What a call at a size runs under the collector: the statements of the
package, and the failure that ends it, if any. Known for the benchmarks whose
runs are known statement by statement; the reading benchmark refuses a
negative number of events before it reaches the package. -/
def ranStatements (measured : Coverage.Measurement) (table : AliasTable) (m : MeasuredBenchmark)
    (n : Int) : Outcome (List Coverage.Statement × Option String) :=
  match m.bench with
  | .objectParsing => do
    let objects ← ((List.range n.toNat).map Benchmark.parsingName).mapM PhysicsObject.ofName
    pure (measured.naming objects, none)
  | .observableRead =>
    if n < 0 then pure ([], some "ValueError: negative dimensions are not allowed")
    else do pure (← readingStatements measured table, none)
  | .cutLayers => pure (measured.layers n.toNat, none)
  | b => throw (.badRequest (b.name ++
      " reaches the package, and only its failures before it are counted"))

/-- The calls of a benchmark under the coverage collector, the defaults first
and then each argument set, stopping at the first that fails: the statements
they ran, and the failure if there is one. A call fails before reaching the
package on a wrong argument or a size that is not an integer. -/
def coveredCalls (measured : Coverage.Measurement) (table : AliasTable) (m : MeasuredBenchmark) :
    Outcome (List Coverage.Statement × Option String) := do
  let calls := m.defaults :: m.params.map (·.fields)
  calls.foldlM (fun (acc : List Coverage.Statement × Option String) args => do
    match acc.2 with
    | some _ => pure acc
    | none =>
      match Benchmark.sizeOfCall m.bench args with
      | .error e => pure (acc.1, some (e.kind.className ++ ": " ++ e.message))
      | .ok n =>
        let (ran, failure) ← ranStatements measured table m n
        pure (Coverage.addStatements acc.1 ran, failure)) ([], none)

/-- The coverage run of benchmarks over a source directory with omitted patterns,
for a package as the collector measured it. -/
def coverage (measured : Coverage.Measurement) (table : AliasTable) (source : String)
    (omitted : List String) (benches : List MeasuredBenchmark) :
    Outcome Coverage.CoverageRun := do
  let patterns ← omitted.flatMapM Coverage.omittedPatterns
  let runs ← benches.mapM (fun m => do pure (m.bench.name, ← coveredCalls measured table m))
  let ran := runs.foldl (fun acc r => Coverage.addStatements acc r.2.1) []
  let failures := runs.filterMap (fun r => r.2.2.map (fun text => (r.1, text)))
  pure { files := Coverage.measuredFiles measured.files source patterns ran, failures,
         benchmarks := benches.length }

end MeasuredBenchmark

namespace Command

open Request

def runBenchmark (table : AliasTable) (req : Datum) : Outcome Datum := do
  let b ← Benchmark.named (← needText req "bench")
  let args := match req.field? "params" with
    | some (.dict fs) => fs
    | _ => []
  Benchmark.run table b (← Benchmark.sizeOfCall b args)

def measureBenchmarks (measured : Coverage.Measurement) (table : AliasTable) (req : Datum) :
    Reply :=
  match (do
    let tool ← needText req "tool"
    let entries := match req.field? "benches" with
      | some (.dict fs) => fs
      | _ => []
    let benches ← entries.mapM MeasuredBenchmark.ofEntry
    match tool with
    | "repotime" =>
      pure (Reply.record [("repotime", .data (.dict (benches.map (fun m => (m.bench.name, m.timing)))))])
    | "semcheck" =>
      let control := (opt req "posctrl" (.bool false)).truthy
      let reports ← benches.mapM (fun m => do
        pure (m.bench.name, ← MeasuredBenchmark.semantics table control m))
      pure (Reply.record [("semcheck", .data (.dict reports))])
    | "cov_runner" =>
      let source ← needText req "source"
      let omitted := match req.field? "omit" with
        | some (.list items) => items.filterMap (fun d => match d with
          | .str t => some t
          | _ => none)
        | _ => []
      let run ← MeasuredBenchmark.coverage measured table source omitted benches
      pure (Reply.data run.toDatum)
    | t => throw (.badRequest ("unknown tool " ++ t)) : Outcome Reply) with
  | .ok r => r
  | .error e => .failure e

end Command

end ColliderML
