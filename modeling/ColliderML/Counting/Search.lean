import ColliderML.Tensor.Tally
import ColliderML.Tensor.Index
import ColliderML.Counting.Window

/-!
# The best cut on one feature

The search for the best cut on one feature looks only at edges where the
classes trade places. The range of the feature is split into equal bins,
and each class is counted per bin (a value on an inner edge counts in both
bins beside it). An edge between two bins is a candidate for a class when the
class outnumbers the other on one side of the edge and not on the other, and
it has events in the bin before the edge. The candidates of both classes,
sorted and without repeats, are paired, each smaller one with each larger
one: by the larger one first, then the smaller. A single candidate is paired
with the largest value; with none at all, zero is the only candidate.

Each pair is scored by the four ways of cutting (below the lower edge, above
it, between the edges, outside them): a way's loss is the mean squared
difference between the labels and the one-hot predictions of the cut. The
best way of a pair is the first of least loss, and the best pair the first
of least loss.

The class of an event is the position of the largest label in its row when
the labels are rows, else the label itself; background is class zero and
signal class one.
-/

namespace ColliderML

namespace CutSearch

/-- One step of a scan for the first best value, `before a b` saying that `a`
goes before `b`: the value seen, with its position, replaces the one kept when
it goes before it or is NaN, and a NaN once kept stays. -/
def keepFirst (before : Float → Float → Bool) (best : Nat × Float) (e : Float × Nat) : Nat × Float :=
  if best.2.isNaN then best
  else if e.1.isNaN || before e.1 best.2 then (e.2, e.1)
  else best

def firstBy (before : Float → Float → Bool) (xs : List Float) : Nat :=
  match xs with
  | [] => 0
  | x :: rest => (rest.zipIdx 1 |>.foldl (keepFirst before) (0, x)).1

def firstLargest (xs : List Float) : Nat := firstBy (fun a b => a > b) xs

def firstLeast (xs : List Float) : Nat := firstBy (fun a b => a < b) xs

def classes (y : Tensor) : List Float :=
  let squeezed := y.shape.filter (· != 1)
  if y.ndim == 2 && squeezed.length == 2 then
    y.rows.map (fun r => Float.ofNat (firstLargest (r.toList.map Scalar.toFloat)))
  else y.toList.map Scalar.toFloat

def ofClass (x : List Float) (labels : List Float) (c : Float) : Outcome (List Float) :=
  (labels.zipIdx.filter (fun e => e.1 == c)).mapM (fun e =>
    match x[e.2]? with
    | some v => .ok v
    | none => .error (.indexBeyondAxis e.2 0 x.length))

def extremes (x : List Float) : Outcome (Float × Float) :=
  match x with
  | [] => .error (.other .badValue "zero-size array to reduction operation minimum which has no identity")
  | v :: rest =>
    if x.any Float.isNaN then .ok (0.0 / 0.0, 0.0 / 0.0)
    else .ok (rest.foldl min v, rest.foldl max v)

/-- The edges after which one class starts or stops outnumbering the other,
where it has events just before the edge. -/
def turningEdges (edges : List Float) (mine other : List Int) : List Float :=
  let ahead := (mine.zip other).map (fun p => decide (p.1 > p.2))
  let turns := (ahead.zip ahead.tail).map (fun p => p.1 != p.2)
  ((turns.zip mine).zipIdx.filter (fun e => e.1.1 && e.1.2 > 0)).map
    (fun e => edges.getD (e.2 + 1) 0)

def candidates (x : List Float) (labels : List Float) (bins : Int) : Outcome (List Float) := do
  let (lo, hi) ← extremes x
  let edges ← Tally.evenPoints lo hi (bins + 1)
  let background ← ofClass x labels 0
  let signal ← ofClass x labels 1
  let counts := fun (vs : List Float) => do
    let t ← Tally.fixedWidthCounts (Tensor.ofList .float32 (vs.map Scalar.real)) lo hi bins
    pure (t.toList.map Scalar.toInt)
  let h0 ← counts background
  let h1 ← counts signal
  let found := turningEdges edges h0 h1 ++ turningEdges edges h1 h0
  let distinct := (Tally.distinct (Tensor.ofList .float64 (found.map Scalar.real))).toList.map Scalar.toFloat
  pure (if distinct.length == 1 then distinct ++ [hi] else distinct)

def pairs (cs : List Float) : List (Float × Float) :=
  cs.flatMap (fun upper => (cs.filter (fun lower => lower < upper)).map (fun lower => (lower, upper)))

def loss (y : List Float) (predicted : List Bool) : Float :=
  let hot := predicted.flatMap (fun p => if p then [0.0, 1.0] else [1.0, 0.0])
  let total := (y.zip hot).foldl (fun acc e => acc + (e.1 - e.2) * (e.1 - e.2)) 0
  total / Float.ofNat hot.length

def wayLoss (x : List Float) (y : List Float) (pair : Float × Float) (w : CutWay) : Float :=
  loss y (x.map (w.keeps pair.1 pair.2))

def wayLosses (x : List Float) (y : List Float) (pair : Float × Float) : List Float :=
  [CutWay.below, CutWay.above, CutWay.inside, CutWay.outside].map (wayLoss x y pair)

def scorePair (x : List Float) (y : List Float) (pair : Float × Float) : Float × Nat :=
  let ls := wayLosses x y pair
  let w := firstLeast ls
  (ls.getD w 0, w)

def choose (x : List Float) (y : List Float) (ps : List (Float × Float)) : Float × Float × Float :=
  let scored := ps.map (scorePair x y)
  let i := firstLeast (scored.map (·.1))
  let (lower, upper) := ps.getD i (0, 0)
  (lower, upper, Float.ofNat (scored.getD i (0, 0)).2)

def best (x : List Float) (y : Option Tensor) (bins : Int) : Outcome (Float × Float × Float) := do
  let labels := match y with
    | some t => classes t
    | none => []
  let cs ← candidates x labels bins
  let ps := pairs cs
  if ps.isEmpty then throw (.other .badValue "need at least one array to stack")
  let n := x.length
  let size := match y with
    | some t => t.data.size
    | none => 1
  if size != n * 2 then
    throw (.other .badValue ("cannot reshape array of size " ++ toString size ++ " into shape (" ++
      toString n ++ ",2)"))
  let ys := match y with
    | some t => t.toList.map Scalar.toFloat
    | none => []
  pure (choose x ys ps)

end CutSearch

end ColliderML
