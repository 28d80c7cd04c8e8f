import ColliderML.Tensor.Basic
import ColliderML.Error

/-!
# Arrays from nested lists

Nested lists become an array after their shape is found depth first. The first
number met fixes the number of axes; the first list met at each depth fixes
that axis's length. A later list of another length, or a number where a list
belongs, or a list where a number belongs, makes the lists ragged: the axes
kept are those before the first disagreement, and the error reports them and
their lengths. An empty list ends the axes below it.
-/

namespace ColliderML

/-- The state of the shape search: how many axes are usable, the lengths found, whether a number was met, whether the lists are ragged. -/
structure Discovery where
  maxDims : Nat := 64
  lengths : Array Nat := #[]
  reached : Bool := false
  ragged : Bool := false

namespace Discovery

def lengthAt (st : Discovery) (k : Nat) : Nat := st.lengths.getD k 0

def setLength (st : Discovery) (k n : Nat) : Discovery :=
  let ls := if st.lengths.size ≤ k then st.lengths ++ Array.replicate (k + 1 - st.lengths.size) 0 else st.lengths
  { st with lengths := ls.set! k n }

def number (st : Discovery) (depth : Nat) : Discovery :=
  if depth > st.maxDims then { st with ragged := true, reached := true }
  else if st.maxDims != depth then
    { st with maxDims := depth, reached := true, ragged := st.ragged || st.reached }
  else { st with reached := true }

def sequence (st : Discovery) (depth n : Nat) : Discovery × Bool :=
  if depth + 1 > st.maxDims then ({ st with ragged := true }, false)
  else if !st.reached then (st.setLength depth n, true)
  else if n != st.lengthAt depth then ({ st with ragged := true, maxDims := depth }, false)
  else (st, true)

mutual
def visit (st : Discovery) (depth : Nat) : Datum → Discovery
  | .list items =>
    let (st, go) := st.sequence depth items.length
    if !go then st
    else if items.isEmpty then { st with reached := true, maxDims := depth + 1 }
    else visitAll st (depth + 1) items
  | _ => st.number depth

def visitAll (st : Discovery) (depth : Nat) : List Datum → Discovery
  | [] => st
  | d :: rest => visitAll (visit st depth d) depth rest
end

def shape (st : Discovery) : Shape := (st.lengths.toList ++ List.replicate st.maxDims 0).take st.maxDims

end Discovery

mutual
def leaves : Datum → List Datum
  | .list items => leavesAll items
  | d => [d]

def leavesAll : List Datum → List Datum
  | [] => []
  | d :: rest => leaves d ++ leavesAll rest
end

def leafScalar (dtype : DType) : Datum → Scalar
  | .int n => Scalar.cast dtype (.int n)
  | .float x => Scalar.cast dtype (.real x)
  | .bool b => Scalar.cast dtype (.bool b)
  | _ => Scalar.cast dtype (.real (0.0 / 0.0))

def Tensor.ofDatum (dtype : DType) (d : Datum) : Outcome Tensor :=
  let st := Discovery.visit {} 0 d
  if st.ragged then .error (.raggedSequence st.maxDims st.shape.tupleText)
  else
    let shape := st.shape
    .ok { dtype, shape, data := ((leaves d).map (leafScalar dtype)).toArray }

/-- The element type nested lists of numbers call for: truth values alone stay
truth values, integers and truth values make integers, and any real number or
nothing makes reals. -/
def inferredType (d : Datum) : DType :=
  let ls := leaves d
  if ls.any (fun l => match l with
      | .int _ | .bool _ => false
      | _ => true) then .float64
  else if ls.any (fun l => match l with
      | .int _ => true
      | _ => false) then .int64
  else if ls.isEmpty then .float64
  else .bool

def Tensor.ofValues (d : Datum) : Outcome Tensor := Tensor.ofDatum (inferredType d) d

end ColliderML
