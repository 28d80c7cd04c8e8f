import ColliderML.Tensor.Basic
import ColliderML.Error

/-!
# Indexing arrays

An index list picks from an array axis by axis: the whole axis, a slice of it
(bounds counted from the end when negative and clipped to the axis, step one),
one position (the axis goes away), or a new axis of length one. Axes left over
at the end are kept whole. More positional items than axes, or a position
outside its axis, is an error, in that order of checking.
-/

namespace ColliderML

inductive Index where
  | all
  | range (start stop : Option Int)
  | pos (i : Int)
  | newAxis
  deriving Inhabited

def sliceRange (len : Nat) (start stop : Option Int) : List Nat :=
  let clip := fun (b : Int) => if b < 0 then max 0 (b + len) else min b len
  let a := ((start.map clip).getD 0).toNat
  let b := ((stop.map clip).getD len).toNat
  (List.range (b - a)).map (· + a)

/-- What an index does to one input axis: positions kept along a new axis, one position, or a fresh axis. -/
inductive Pick where
  | keep (positions : Array Nat)
  | fixed (position : Nat)
  | fresh

def picks : List Index → Shape → Nat → Outcome (List Pick)
  | [], rest, _ => .ok (rest.map (fun n => .keep (List.range n).toArray))
  | .newAxis :: ix, rest, axis => do
    let ps ← picks ix rest axis
    pure (.fresh :: ps)
  | .all :: ix, n :: rest, axis => do
    let ps ← picks ix rest (axis + 1)
    pure (.keep (List.range n).toArray :: ps)
  | .range a b :: ix, n :: rest, axis => do
    let ps ← picks ix rest (axis + 1)
    pure (.keep (sliceRange n a b).toArray :: ps)
  | .pos i :: ix, n :: rest, axis =>
    if i < -(n : Int) || i ≥ n then .error (.indexBeyondAxis i axis n)
    else do
      let ps ← picks ix rest (axis + 1)
      pure (.fixed (if i < 0 then (i + n).toNat else i.toNat) :: ps)
  | _ :: _, [], _ => .ok []

def pickShape : List Pick → Shape
  | [] => []
  | .keep ps :: rest => ps.size :: pickShape rest
  | .fixed _ :: rest => pickShape rest
  | .fresh :: rest => 1 :: pickShape rest

def pickSource : List Pick → List Nat → List Nat
  | [], _ => []
  | .keep ps :: rest, o :: os => ps.getD o 0 :: pickSource rest os
  | .keep _ :: rest, [] => 0 :: pickSource rest []
  | .fixed p :: rest, os => p :: pickSource rest os
  | .fresh :: rest, _ :: os => pickSource rest os
  | .fresh :: rest, [] => pickSource rest []

def Index.consumes : Index → Bool
  | .newAxis => false
  | _ => true

namespace Tensor

def index (t : Tensor) (ix : List Index) : Outcome Tensor := do
  let used := (ix.filter Index.consumes).length
  if used > t.ndim then throw (.tooManyIndices t.ndim used)
  let ps ← picks ix t.shape 0
  pure (Tensor.build t.dtype (pickShape ps) (fun pos => t.get (pickSource ps pos)))

def rows (t : Tensor) : List Tensor :=
  match t.shape with
  | [] => []
  | n :: rest =>
    let k := Shape.size rest
    (List.range n).map (fun i =>
      { dtype := t.dtype, shape := rest, data := t.data.extract (i * k) (i * k + k) })

/-- The rows at given positions of the first axis, in the order given; the
first position past the end fails. -/
def takeRows (t : Tensor) (ps : List Nat) : Outcome Tensor := do
  if t.ndim == 0 then throw (.tooManyIndices 0 1)
  let n := t.length
  let k := Shape.size (t.shape.drop 1)
  match ps.find? (· ≥ n) with
  | some i => throw (.indexBeyondAxis i 0 n)
  | none =>
    pure { dtype := t.dtype, shape := ps.length :: t.shape.drop 1,
           data := ps.foldl (fun acc i => acc ++ t.data.extract (i * k) (i * k + k)) #[] }

/-- The rows of the first axis where a mask of one axis holds; the mask must
be as long as that axis. -/
def maskRows (t : Tensor) (mask : Tensor) : Outcome Tensor := do
  if t.ndim == 0 then throw (.tooManyIndices 0 1)
  if mask.length != t.length then
    throw (.other .outOfRange ("boolean index did not match indexed array along axis 0; size of axis is " ++
      toString t.length ++ " but size of corresponding boolean axis is " ++ toString mask.length))
  t.takeRows ((mask.toList.zipIdx.filter (fun e => e.1.truth)).map (·.2))

end Tensor

end ColliderML
