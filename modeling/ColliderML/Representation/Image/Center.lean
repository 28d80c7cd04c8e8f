import ColliderML.Tensor.Basic
import ColliderML.Error

/-!
# Values moved to the centres of their bins

Bin edges must rise or fall: after the edges equal to the first, every step
goes the way of the first step that changes, and edges that are all equal
count as rising. NaN compares as nothing does, so a NaN edge after the first
makes the edges fall.

A value's bin position counts the edges at or below it, NaN coming after
every number: falling edges count from the other end. Position zero lies
below every edge and the number of edges above them all; a value there has
no bin and becomes NaN. Every other value becomes the centre of its bin, the
mean of the bin's two edges, kept in the array's element type: rounded to
single precision, cut toward zero to an integer, or read as a truth value.
An integer array cannot hold NaN.
-/

namespace ColliderML

namespace BinCenters

def direction (edges : List Float) : Int :=
  match edges with
  | [] => 1
  | first :: rest =>
    match rest.dropWhile (· == first) with
    | [] => 1
    | next :: more =>
      let steps := (next :: more).zip more
      if first < next then (if steps.any (fun p => p.1 > p.2) then 0 else 1)
      else if steps.any (fun p => p.1 < p.2) then 0 else -1

def before (x b : Float) : Bool := (b.isNaN && !x.isNaN) || x < b

def countUpTo (edges : List Float) (x : Float) : Nat :=
  (edges.takeWhile (fun b => !before x b)).length

def position (edges : List Float) (rising : Bool) (x : Float) : Nat :=
  if rising then countUpTo edges x else edges.length - countUpTo edges.reverse x

def centers (edges : List Float) : List Float :=
  (edges.zip edges.tail).map (fun p => (p.1 + p.2) / 2)

def centerOf (edges : List Float) (rising : Bool) (x : Float) : Float :=
  let i := position edges rising x
  if i == 0 || i == edges.length then 0.0 / 0.0
  else (centers edges).getD (i - 1) (0.0 / 0.0)

def store (t : DType) (x : Float) : Outcome Scalar :=
  match t with
  | .float32 | .float64 | .bool => .ok (Scalar.cast t (.real x))
  | _ =>
    if x.isNaN then .error (.other .badValue "cannot convert float NaN to integer")
    else .ok (Scalar.cast t (.real x))

end BinCenters

namespace Tensor

def toCenters (t : Tensor) (edges : List Float) : Outcome Tensor := do
  let dir := BinCenters.direction edges
  if dir == 0 then throw (.other .badValue "bins must be monotonically increasing or decreasing")
  let data ← t.data.mapM (fun s => BinCenters.store t.dtype (BinCenters.centerOf edges (dir == 1) s.toFloat))
  pure { t with data }

end Tensor

end ColliderML
