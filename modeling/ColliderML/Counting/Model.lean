import ColliderML.Counting.Search
import ColliderML.Counting.Metric
import ColliderML.Tensor.Arith

/-!
# Cut-and-count classifiers

A cut-and-count classifier holds one cut per feature, the `i`-th cut on the
`i`-th column. It predicts signal for the events that its cuts keep, in one
of two arrangements:

- in parallel, every cut looks at all events and an event is signal when
  every cut keeps it;
- in sequence, an event is signal when every cut keeps it as well, but when
  cuts are fitted each cut is fitted on the events the cut before it kept.

Given labels, the classifier first fits each cut on its feature by the best
cut search, setting its edges and way; a failure stops the pass and leaves the
cuts fitted so far. Predictions come as one-hot rows; an arrangement other
than the two is not implemented. A training step predicts with fitting, then
updates each measure with the labels and the predictions; a measure named
`loss` cannot take them.
-/

namespace ColliderML

structure CountingModel where
  name : Datum
  observables : Datum
  bins : Datum
  topology : Datum
  cuts : List FeatureCut
  measures : List Measure := []
  deriving Inhabited

namespace CountingModel

def whole (d : Datum) : Outcome Int :=
  match d with
  | .int i => .ok i
  | .bool b => .ok (if b then 1 else 0)
  | d => .error (.notAnIndex d.kindName)

/-- Makes a classifier: unnamed, it takes the counter's next number, and its
cuts, one per feature, the numbers after it. -/
def make (observables bins topology : Datum) (name : Option Datum) : Outcome CountingModel := do
  let n ← whole observables
  let (label, serial) := match name with
    | some d => (d, 0)
    | none => (Datum.str "cut_layer_1", 1)
  let (cuts, _) ← (List.range n.toNat).foldlM (fun (acc : List FeatureCut × Nat) (i : Nat) => do
    let (c, next) ← FeatureCut.make acc.2 none none none none none none (some (.int i))
    pure (acc.1 ++ [c], next)) ([], serial)
  pure { name := label, observables, bins, topology, cuts }

def config (m : CountingModel) : Datum :=
  .dict [("name", m.name), ("n_observables", m.observables), ("n_bins", m.bins),
    ("topology", m.topology)]

def values (t : Tensor) : List Float := t.toList.map Scalar.toFloat

def fitCut (m : CountingModel) (c : FeatureCut) (x : Tensor) (y : Option Tensor) : Outcome FeatureCut := do
  let (lower, upper, way) ← CutSearch.best (values x) y (← whole m.bins)
  pure (c.fit lower upper way)

def product : List Tensor → Outcome Tensor
  | [] => .error (.other .badValue "need at least one array to stack")
  | t :: rest => rest.foldlM (Tensor.arith .mul) t

/-- One cut of the parallel pass: the cut, fitted on its column first when
labels are given, and its marks of one for the events it keeps. -/
def parallelCut (m : CountingModel) (x : Tensor) (y : Option Tensor) (c : FeatureCut) :
    Outcome (FeatureCut × Tensor) := do
  let ix ← c.column x
  let c ← match y with
    | some _ => m.fitCut c ix y
    | none => pure c
  pure (c, c.mark ix 1 0)

/-- One step of the parallel pass: the cuts so far, and the predictions so far
or the failure that stopped the pass. -/
def parallelStep (m : CountingModel) (x : Tensor) (y : Option Tensor)
    (acc : List FeatureCut × Outcome (List Tensor)) (c : FeatureCut) :
    List FeatureCut × Outcome (List Tensor) :=
  match acc.2 with
  | .error e => (acc.1 ++ [c], .error e)
  | .ok preds =>
    match m.parallelCut x y c with
    | .error e => (acc.1 ++ [c], .error e)
    | .ok (c, p) => (acc.1 ++ [c], .ok (preds ++ [p]))

/-- Runs the cuts in parallel, fitting each first when labels are given:
the cuts after the pass, and the prediction or the failure that stopped it. -/
def parallel (m : CountingModel) (x : Tensor) (y : Option Tensor) :
    List FeatureCut × Outcome Tensor :=
  let (cuts, preds) := m.cuts.foldl (m.parallelStep x y) ([], .ok [])
  (cuts, do product (← preds))

def kept (mask : Tensor) : List Nat :=
  (mask.toList.zipIdx.filter (fun e => e.1.toFloat ≥ 0)).map (·.2)

def rowsAt (y : Tensor) (ps : List Nat) : Outcome Tensor := do
  let rows := y.rows
  let picked ← ps.mapM (fun i =>
    match rows[i]? with
    | some r => .ok r
    | none => .error (.indexBeyondAxis i 0 rows.length))
  let inner := y.shape.drop 1
  pure { dtype := y.dtype, shape := picked.length :: inner,
         data := (picked.map (·.data)).foldl (· ++ ·) #[] }

/-- One cut of the sequential pass from the prediction and the mask so far:
the cut, fitted first when labels are given on the events the mask keeps, and
the prediction and mask after it. -/
def sequenceCut (m : CountingModel) (x : Tensor) (y : Option Tensor) (pred mask : Tensor)
    (c : FeatureCut) : Outcome (FeatureCut × Tensor × Tensor) := do
  let ix ← c.column x
  let c ← match y with
    | some t => do
      let ps := kept mask
      let maskedX := Tensor.ofList ix.dtype (ps.map (fun i => ix.data.getD i default))
      m.fitCut c maskedX (some (← rowsAt t ps))
    | none => pure c
  let mask ← c.applyCut ix (-1)
  let next ← Tensor.zipWith .float32 (fun a b =>
    .real (if a.truth && b.toFloat ≥ 0 then 1 else 0)) pred mask
  pure (c, next, mask)

/-- One step of the sequential pass: the cuts so far, and the prediction and
mask so far or the failure that stopped the pass. -/
def sequenceStep (m : CountingModel) (x : Tensor) (y : Option Tensor)
    (acc : List FeatureCut × Outcome (Tensor × Tensor)) (c : FeatureCut) :
    List FeatureCut × Outcome (Tensor × Tensor) :=
  match acc.2 with
  | .error e => (acc.1 ++ [c], .error e)
  | .ok (pred, mask) =>
    match m.sequenceCut x y pred mask c with
    | .error e => (acc.1 ++ [c], .error e)
    | .ok (c, next, mask) => (acc.1 ++ [c], .ok (next, mask))

def sequence (m : CountingModel) (x : Tensor) (y : Option Tensor) :
    List FeatureCut × Outcome Tensor :=
  let n := x.length
  let start : List FeatureCut × Outcome (Tensor × Tensor) :=
    ([], if x.ndim == 0 then .error (.other .outOfRange "tuple index out of range")
      else .ok (Tensor.fill .float64 [n] (.real 1), Tensor.fill .float64 [n] (.real 1)))
  let (cuts, out) := m.cuts.foldl (m.sequenceStep x y) start
  (cuts, do pure (← out).1)

def squeeze (t : Tensor) : Tensor := { t with shape := t.shape.filter (· != 1) }

def oneHot (t : Tensor) : Tensor :=
  let rows := t.toList.map (fun s =>
    match Scalar.truncate s.toFloat with
    | 0 => [Scalar.real 1, .real 0]
    | 1 => [Scalar.real 0, .real 1]
    | _ => [Scalar.real 0, .real 0])
  { dtype := .float32, shape := t.shape ++ [2], data := (rows.foldl (· ++ ·) []).toArray }

def predict (m : CountingModel) (x : Tensor) (y : Option Tensor) : CountingModel × Outcome Tensor :=
  let run := match m.topology with
    | .str "parallel" => some (m.parallel x y)
    | .str "sequential" => some (m.sequence x y)
    | _ => none
  match run with
  | none => (m, .error (.other .notImplemented ""))
  | some (cuts, out) => ({ m with cuts }, do pure (oneHot (squeeze (← out))))

def trainStep (m : CountingModel) (x : Tensor) (y : Option Tensor) :
    CountingModel × Outcome (List (String × Float)) :=
  let (m, out) := m.predict x y
  match out with
  | .error e => (m, .error e)
  | .ok predicted =>
    let size := match y with
      | some t => t.data.size
      | none => 1
    if size != predicted.data.size then
      (m, .error (.other .badValue ("cannot reshape array of size " ++ toString size ++
        " into shape " ++ predicted.shape.compactText)))
    else
      let labels := y.getD predicted
      let step := fun (acc : List Measure × Option Error) (me : Measure) =>
        match acc.2 with
        | some e => (acc.1 ++ [me], some e)
        | none =>
          if me.name == "loss" then (acc.1 ++ [me], some (.other .badType
            "_Metric.update_state() missing 1 required positional argument: 'y_pred'"))
          else (acc.1 ++ [me.update labels predicted], none)
      let (measures, failure) := m.measures.foldl step ([], none)
      match failure with
      | some e => ({ m with measures }, .error e)
      | none =>
        let results := measures.foldl (fun acc me => assocSet acc me.name me.result) []
        ({ m with measures }, .ok results)

end CountingModel

end ColliderML
