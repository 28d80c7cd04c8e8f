import ColliderML.Tensor.Arith

/-!
# Padding, merging, reducing and joining arrays

- Padding an axis to a length fills the new places with NaN; the result holds
  doubles and is optional. An axis already long enough is left as it is.
- Merging the inner axes joins every axis after the first into one, as
  reshaping to the first length and whatever remains does: an array of one
  axis gains an axis of length one, and one of two axes keeps its shape.
- Reducing along the second axis with "any" or "all" drops that axis.
- Joining arrays along the second axis needs the same number of axes and the
  same lengths elsewhere; the element type is the promoted one.
-/

namespace ColliderML

namespace Tensor

def padAxis (t : Tensor) (target : Nat) (axis : Nat) : Tensor :=
  let len := t.shape.getD axis 0
  if target ≤ len then t
  else
    let shape := t.shape.set axis target
    let p := Tensor.build .float64 shape (fun pos =>
      if pos.getD axis 0 < len then .real (t.get pos).toFloat else .real (0.0 / 0.0))
    { p with optional := true }

def mergeInner (t : Tensor) : Tensor :=
  match t.shape with
  | n :: rest => { t with shape := [n, Shape.size rest] }
  | [] => t

def flatten (t : Tensor) : Tensor := { t with shape := [t.shape.size] }

def reduceAxis1 (t : Tensor) (unit : Bool) (f : Bool → Bool → Bool) : Outcome Tensor :=
  match t.shape with
  | n :: m :: rest =>
    .ok (Tensor.build .bool (n :: rest) (fun pos =>
      .bool ((List.range m).foldl (fun acc j =>
        f acc (t.get (pos.headD 0 :: j :: pos.tail)).truth) unit)))
  | s => .error (.axisBeyond 1 s.length)

def anyAxis1 (t : Tensor) : Outcome Tensor := t.reduceAxis1 false (· || ·)

def allAxis1 (t : Tensor) : Outcome Tensor := t.reduceAxis1 true (· && ·)

/-- Joins two arrays along an axis; the second is the array at a position
of the arrays being joined, which the messages name. -/
def appendAlong (axis : Nat) (a b : Tensor) (index : Nat) : Outcome Tensor :=
  if a.ndim == 0 then .error (.other .badValue "zero-dimensional arrays cannot be concatenated")
  else if a.ndim ≤ axis then .error (.axisBeyond axis a.ndim)
  else if a.ndim != b.ndim then
    .error (.other .badValue ("all the input arrays must have same number of dimensions, but the array at index 0 has " ++
      toString a.ndim ++ " dimension(s) and the array at index " ++ toString index ++ " has " ++
      toString b.ndim ++ " dimension(s)"))
  else
    let bad := ((a.shape.zip b.shape).zipIdx).find? (fun e => e.2 != axis && e.1.1 != e.1.2)
    match bad with
    | some ((x, y), d) =>
      .error (.other .badValue ("all the input array dimensions except for the concatenation axis must match exactly, but along dimension " ++
        toString d ++ ", the array at index 0 has size " ++ toString x ++ " and the array at index " ++
        toString index ++ " has size " ++ toString y))
    | none =>
      let la := a.shape.getD axis 0
      let dtype := DType.promote a.dtype b.dtype
      .ok (Tensor.build dtype (a.shape.set axis (la + b.shape.getD axis 0)) (fun pos =>
        let j := pos.getD axis 0
        Scalar.cast dtype (if j < la then a.get pos else b.get (pos.set axis (j - la)))))

def concatAlong (axis : Nat) : List Tensor → Outcome Tensor
  | [] => .error .emptyConcatenation
  | t :: rest => (rest.zipIdx 1).foldlM (fun acc e => appendAlong axis acc e.1 e.2) t

def concat1 : List Tensor → Outcome Tensor := concatAlong 1

/-- Joins arrays side by side: along the first axis when the first array has
one axis, else along the second. -/
def sideBySide (ts : List Tensor) : Outcome Tensor :=
  concatAlong (if (ts.headD default).ndim == 1 then 0 else 1) ts

def stack (ts : List Tensor) : Outcome Tensor :=
  match ts with
  | [] => .error (.other .badValue "need at least one array to stack")
  | t :: rest =>
    if rest.all (·.shape == t.shape) then
      let dtype := rest.foldl (fun d u => DType.promote d u.dtype) t.dtype
      .ok { dtype, shape := ts.length :: t.shape,
            data := (ts.map (fun u => (u.astype dtype).data)).foldl (· ++ ·) #[] }
    else .error (.other .badValue "all input arrays must have the same shape")

end Tensor

end ColliderML
