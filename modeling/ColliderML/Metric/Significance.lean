import ColliderML.Metric.Thresholds
import ColliderML.Datum.Equality
import ColliderML.Tensor.Index

/-!
# The maximum signal significance over decision thresholds

A search for the best threshold weighs one class as signal and the others as
background: the signal's cross section and weight are taken out of the lists
at the class's position, and what remains belongs to the backgrounds.

The confusion counts at each threshold come from the metrics library, and a
search takes its counting rule as a parameter; the library's rule selects an
event when its score is at least the threshold as given (`confusionAt`).
Scores that are not positive count as a tiny positive score. The true-positive
rate is the share of signal events selected and the false-positive rate the
share of background events selected. The expected signal is `σ_s · L · w_s · tpr`, the expected
background the sum of `σ_b · L · w_b · fpr` over the backgrounds, and the
significance `s / √(s + b)`.

With the single default threshold one half, the rates and the significance
are plain numbers. With other thresholds, those whose false-positive rate is
zero are dropped first, and the threshold of largest significance (the first
of equals, a NaN counting as largest) is selected.

The counts themselves are weighed (`tp / √(tp + fp)`) only when what remains
of the cross sections, once the signal's entry is taken out, equals two ones;
the default two ones leave a single one, so the defaults weigh the yields.
-/

namespace ColliderML

namespace Metric

structure SignificanceSearch where
  luminosity : Datum
  signalCrossSection : Datum
  backgroundCrossSections : List Datum
  signalWeight : Datum
  backgroundWeights : List Datum
  classId : Datum
  thresholds : Datum
  deriving Inhabited

def position (at_ : Datum) : Outcome Int :=
  match at_ with
  | .int i => pure i
  | .bool b => pure (if b then 1 else 0)
  | d => throw (.notAnIndex d.kindName)

def popAt (xs : List Datum) (i : Int) : Outcome (Datum × List Datum) :=
  if xs.isEmpty then throw (.other .outOfRange "pop from empty list")
  else
    let n : Int := xs.length
    let j := if i < 0 then i + n else i
    if j < 0 || j ≥ n then throw (.other .outOfRange "pop index out of range")
    else pure (xs.getD j.toNat .none, xs.eraseIdx j.toNat)

def takeOut (xs : List Datum) (at_ : Datum) : Outcome (Datum × List Datum) := do
  popAt xs (← position at_)

def splitSetting (given : Datum) (classId : Datum) : Outcome (Datum × List Datum) :=
  match given with
  | .none => takeOut [.int 1, .int 1] classId
  | .list xs => takeOut xs classId
  | .dict _ => .error (.missingKey classId.literal)
  | d => .error (.noMember d.kindName "copy")

def SignificanceSearch.make (crossSections luminosity weights thresholds classId : Datum) :
    Outcome SignificanceSearch := do
  let luminosity := match luminosity with
    | .none => .float 1.0
    | d => d
  let (signalCrossSection, backgroundCrossSections) ← splitSetting crossSections classId
  let (signalWeight, backgroundWeights) ← splitSetting weights classId
  let thresholds := match thresholds with
    | .none => .list [.float 0.5]
    | d => d
  pure { luminosity, signalCrossSection, backgroundCrossSections, signalWeight,
         backgroundWeights, classId, thresholds }

def SignificanceSearch.describe (s : SignificanceSearch) : List (String × Datum) :=
  [("s_xsec", s.signalCrossSection), ("b_xsec", .list s.backgroundCrossSections),
   ("s_weight", s.signalWeight), ("b_weight", .list s.backgroundWeights),
   ("luminosity", s.luminosity), ("thresholds", s.thresholds)]

def product (x y : Datum) : Outcome Datum :=
  match x, y with
  | .int a, .int b => .ok (.int (a * b))
  | .int a, .bool b => .ok (.int (a * (if b then 1 else 0)))
  | .bool a, .int b => .ok (.int ((if a then 1 else 0) * b))
  | .bool a, .bool b => .ok (.int (if a && b then 1 else 0))
  | _, _ =>
    match x.float?, y.float? with
    | some a, some b => .ok (.float (a * b))
    | _, _ => .error (.unsupportedOperands "*" x.kindName y.kindName)

def yieldFactor (crossSection luminosity weight : Datum) : Outcome Float := do
  let f ← product (← product crossSection luminosity) weight
  pure (f.float?.getD 0)

def isDefault (thresholds : Datum) : Bool :=
  match thresholds with
  | .list [.float x] => x == 0.5
  | _ => false

/-- The counts of a confusion matrix at one threshold. -/
structure Confusion where
  truePositives : Float
  falsePositives : Float
  trueNegatives : Float
  falseNegatives : Float
  deriving Inhabited

/-- The counts at a threshold, as the metrics library makes them: an event is
selected when its score is at least the threshold. -/
def confusionAt (events : List (Bool × Float)) (threshold : Float) : Confusion :=
  let count := fun (signal selected : Bool) =>
    Float.ofNat (events.filter (fun e => e.1 == signal && decide (e.2 ≥ threshold) == selected)).length
  { truePositives := count true true, falsePositives := count false true,
    trueNegatives := count false false, falseNegatives := count true false }

def argMax (xs : List Float) : Outcome Nat :=
  match xs with
  | [] => .error (.other .badValue "attempt to get argmax of an empty sequence")
  | x :: rest =>
    let step := fun (best : Nat × Float) (e : Float × Nat) =>
      if best.2.isNaN then best
      else if e.1.isNaN || e.1 > best.2 then (e.2, e.1)
      else best
    .ok (rest.zipIdx 1 |>.foldl step (0, x)).1

/-- The labels of events: the class of largest score of each row for rows of
scores, else the values themselves. -/
def labelsOf (t : Tensor) : List Bool :=
  if (t.shape.filter (· != 1)).length == 2 then
    t.rows.map (fun r =>
      match argMax (r.toList.map Scalar.toFloat) with
      | .ok i => i != 0
      | .error _ => false)
  else t.toList.map Scalar.truth

def scoresOf (t : Tensor) (classId : Datum) : Outcome (List Float) := do
  if (t.shape.filter (· != 1)).length == 2 then
    let i ← match classId with
      | .int i => pure i
      | .bool b => pure (if b then 1 else 0)
      | d => throw (.notAnIndex d.kindName)
    let col ← t.index [.all, .pos i]
    pure (col.toList.map Scalar.toFloat)
  else pure (t.toList.map Scalar.toFloat)

def countedScore (x : Float) : Float := if x > 0 then x else Single.round margin

def thresholdValues (thresholds : Datum) (scores : List Float) : Outcome (List Float) := do
  match thresholds with
  | .str "auto" =>
    let _ ← scoreThresholds (Tensor.ofList .float32 (scores.map Scalar.real))
    throw (.noMember "numpy.ndarray" "numpy")
  | .list xs => pure (xs.map (fun d => d.float?.getD (0.0 / 0.0)))
  | d => pure [d.float?.getD (0.0 / 0.0)]

structure SignificanceResult where
  result : Datum
  significance : Datum
  selectedTpr : Datum
  selectedFpr : Datum
  selectedThreshold : Datum
  deriving Inhabited

def rate (part rest : Float) : Float := part / (part + rest)

def ratesOf (c : Confusion) : Float × Float :=
  (rate c.truePositives c.falseNegatives, rate c.falsePositives c.trueNegatives)

def significance (s b : Float) : Float := s / (s + b).sqrt

/-- The expected signal and background at a true- and a false-positive rate:
the signal's factor times the first, and the sum of the backgrounds' factors
times the second. -/
def expected (signal : Float) (backgrounds : List Float) (rates : Float × Float) : Float × Float :=
  (signal * rates.1, backgrounds.foldl (fun acc f => acc + f * rates.2) 0)

/-- Whether the backgrounds' cross sections equal the two ones that stand for
no cross sections: the search then weighs the counts themselves. -/
def SignificanceSearch.countsOnly (s : SignificanceSearch) : Bool :=
  Datum.pyEq (.list s.backgroundCrossSections) (.list [.int 1, .int 1])

def SignificanceSearch.atDefault (s : SignificanceSearch) (rates : Float × Float) (z : Float) :
    SignificanceResult :=
  { result := .float z, significance := .float z, selectedTpr := .float rates.1,
    selectedFpr := .float rates.2, selectedThreshold := s.thresholds }

/-- Weighing the counts themselves, `tp / √(tp + fp)` at every threshold. Past
the default threshold the choice fails: the rates of a single threshold are
plain numbers, and for several thresholds none were kept to choose from. -/
def SignificanceSearch.countedResult (s : SignificanceSearch) (counts : List Confusion) :
    Outcome SignificanceResult := do
  let zs := counts.map fun c => significance c.truePositives c.falsePositives
  if isDefault s.thresholds then
    pure (s.atDefault ((counts.map ratesOf).headD (0, 0)) (zs.headD 0))
  else
    let _ ← argMax zs
    if zs.length == 1 then throw (.other .outOfRange "invalid index to scalar variable.")
    else throw (.unboundParameter "thresholds")

/-- Weighing the expected yields: past the default threshold, the thresholds
whose false-positive rate is zero are dropped and the first of largest
significance is chosen. -/
def SignificanceSearch.weighedResult (s : SignificanceSearch) (thresholds : List Float)
    (counts : List Confusion) : Outcome SignificanceResult := do
  let signal ← yieldFactor s.signalCrossSection s.luminosity s.signalWeight
  let backgrounds ← (s.backgroundCrossSections.zip s.backgroundWeights).mapM
    (fun e => yieldFactor e.1 s.luminosity e.2)
  let rates := counts.map ratesOf
  let significanceAt := fun (r : Float × Float) =>
    significance (expected signal backgrounds r).1 (expected signal backgrounds r).2
  if isDefault s.thresholds then
    let r := rates.headD (0, 0)
    pure (s.atDefault r (significanceAt r))
  else
    let kept := (rates.zip thresholds).filter (fun e => e.1.2 != 0)
    let zs := kept.map (fun e => significanceAt e.1)
    let best ← argMax zs
    let chosen := kept.getD best ((0, 0), 0)
    let threshold : Datum := match s.thresholds with
      | .list [_] => .list [.float chosen.2]
      | _ => .float chosen.2
    pure { result := .float (zs.getD best 0), significance := .list (zs.map Datum.float),
           selectedTpr := .float chosen.1.1, selectedFpr := .float chosen.1.2,
           selectedThreshold := threshold }

def SignificanceSearch.run (s : SignificanceSearch) (count : List (Bool × Float) → Float → Confusion)
    (truth scores : Tensor) : Outcome SignificanceResult := do
  let raw ← scoresOf scores s.classId
  let thresholds ← thresholdValues s.thresholds raw
  let counts := thresholds.map (count ((labelsOf truth).zip (raw.map countedScore)))
  if s.countsOnly then s.countedResult counts else s.weighedResult thresholds counts

end Metric

end ColliderML
