import ColliderML.Tensor.Index
import ColliderML.Number.Format
import ColliderML.Text.Basic

/-!
# Cuts on one feature

A cut on one feature keeps an event by comparing the feature with two edges,
in one of four ways: at or below the lower edge, at or above it, between the
edges (both included), or outside them (at or below the lower or at or above
the upper). The edges and the way are held as single-precision numbers, so a
way is recognised only when it equals 0, 1 or 2 exactly; any other number
keeps events outside the edges. Read back as a whole number (cut toward zero),
the way also chooses how the cut is written:

- `name <= lower`, `name >= lower`, `lower <= name <= upper`, or
  `name <= lower or name >= upper`, with five decimals;
- a cut given as text is written as that text, and named by it.

A cut without a given name or text takes the name `observable_N`, the number
being the next of a counter of unnamed parts.
-/

namespace ColliderML

/-- The ways a cut on one feature keeps events. -/
inductive CutWay where
  | below
  | above
  | inside
  | outside
  deriving DecidableEq, Inhabited, Repr

namespace CutWay

def ofValue (v : Float) : CutWay :=
  if v == 0 then .below else if v == 1 then .above else if v == 2 then .inside else .outside

def ofWhole (n : Int) : CutWay :=
  match n with
  | 0 => .below
  | 1 => .above
  | 2 => .inside
  | _ => .outside

def keeps (w : CutWay) (lower upper x : Float) : Bool :=
  match w with
  | .below => x ≤ lower
  | .above => x ≥ lower
  | .inside => x ≥ lower && x ≤ upper
  | .outside => x ≤ lower || x ≥ upper

def index : CutWay → Nat
  | .below => 0
  | .above => 1
  | .inside => 2
  | .outside => 3

end CutWay

def singleSetting (d : Datum) : Outcome Float :=
  match d with
  | .int i => .ok (Single.round (Float.ofInt i))
  | .float x => .ok (Single.round x)
  | .bool b => .ok (if b then 1 else 0)
  | .str s => .error (.invalidFloat s)
  | d => .error (.other .badType
      ("float() argument must be a string or a real number, not '" ++ d.kindName ++ "'"))

def wholeSetting (d : Datum) : Outcome Int :=
  match d with
  | .int i => .ok i
  | .float x =>
    if x.isNaN then .error (.other .badValue "cannot convert float NaN to integer")
    else if x.isInf then .error (.other .outOfRange "cannot convert float infinity to integer")
    else .ok (Scalar.truncate x)
  | .bool b => .ok (if b then 1 else 0)
  | .str s => .error (.invalidInteger s)
  | d => .error (.other .badType
      ("int() argument must be a string, a bytes-like object or a real number, not '" ++ d.kindName ++ "'"))

structure FeatureCut where
  /-- The name, the text of a cut given as text. -/
  name : Datum
  /-- The cut as given text, or nothing. -/
  text : Datum := .none
  /-- The count as given. -/
  count : Datum := .int 0
  /-- The lower edge, in single precision. -/
  lower : Float := 0
  /-- The upper edge, in single precision. -/
  upper : Float := 0
  /-- The number that stands for the way, in single precision. -/
  way : Float := 0
  /-- The position of the feature among the columns, as given. -/
  feature : Datum := .int 0
  deriving Inhabited

namespace FeatureCut

/-- Makes a cut from its settings; an unnamed one takes the counter's next
number. Gives the cut and the counter after it. -/
def make (serial : Nat) (text name count lower upper way feature : Option Datum) :
    Outcome (FeatureCut × Nat) := do
  let lowerValue ← singleSetting (lower.getD (.float 0))
  let upperValue ← singleSetting (upper.getD (.float 0))
  let wayValue ← singleSetting (way.getD (.int 0))
  let given := text.getD .none
  let (label, next) ← match given, name with
    | .none, none => pure (Datum.str ("observable_" ++ toString (serial + 1)), serial + 1)
    | .none, some (.str s) => pure (Datum.str (Text.replace s "cut_layer" "observable"), serial)
    | .none, some d => throw (.noMember d.kindName "replace")
    | _, some _ => throw (.other .badType "Layer.__init__() got multiple values for keyword argument 'name'")
    | t, none => pure (t, serial)
  pure ({ name := label, text := given, count := count.getD (.int 0), lower := lowerValue,
          upper := upperValue, way := wayValue, feature := feature.getD (.int 0) }, next)

def keeping (c : FeatureCut) : CutWay := CutWay.ofValue c.way

def wayNumber (c : FeatureCut) : Outcome Int := wholeSetting (.float c.way)

def describe (c : FeatureCut) : Outcome String := do
  match c.text with
  | .none =>
    let n := c.name.display
    let lo := Number.fixedText c.lower 5
    let hi := Number.fixedText c.upper 5
    match CutWay.ofWhole (← c.wayNumber) with
    | .below => pure (n ++ " <= " ++ lo)
    | .above => pure (n ++ " >= " ++ lo)
    | .inside => pure (lo ++ " <= " ++ n ++ " <= " ++ hi)
    | .outside => pure (n ++ " <= " ++ lo ++ " or " ++ n ++ " >= " ++ hi)
  | t => pure t.display

def config (c : FeatureCut) : Datum :=
  .dict [("name", c.name), ("cut", c.text), ("count", c.count), ("feature_id", c.feature)]

def summary (c : FeatureCut) : Outcome Datum := do
  let text ← c.describe
  let count ← wholeSetting c.count
  let way ← c.wayNumber
  pure (.dict [("name", c.name), ("cut", .str text), ("count", .int count),
    ("cut_left", .float c.lower), ("cut_right", .float c.upper), ("case", .int way),
    ("feature_id", c.feature), ("config", c.config)])

def mark (c : FeatureCut) (x : Tensor) (kept other : Float) : Tensor :=
  let w := c.keeping
  x.map .float64 (fun s => .real (if w.keeps c.lower c.upper s.toFloat then kept else other))

def featureIndex (c : FeatureCut) : Outcome Int :=
  match c.feature with
  | .int i => .ok i
  | .bool b => .ok (if b then 1 else 0)
  | _ => .error (.other .badType
      "Cannot cast array data from dtype('float64') to dtype('int64') according to the rule 'safe'")

def column (c : FeatureCut) (x : Tensor) : Outcome Tensor := do
  let i ← c.featureIndex
  if x.ndim == 0 then throw (.axisBeyond (-1) 0)
  x.index (List.replicate (x.ndim - 1) Index.all ++ [.pos i])

/-- Applies the cut to rows of features (or to one feature's values): one
for every event kept, and the given mark for the others. -/
def applyCut (c : FeatureCut) (x : Tensor) (other : Float) : Outcome Tensor := do
  let x := x.astype .float32
  let v ← if x.ndim == 2 then c.column x else pure x
  pure (c.mark v 1 other)

def fit (c : FeatureCut) (lower upper way : Float) : FeatureCut :=
  { c with lower := Single.round lower, upper := Single.round upper, way := Single.round way }

end FeatureCut

end ColliderML
