import ColliderML.Tensor.Index

/-!
# Arithmetic on arrays

Two arrays combine element by element after broadcasting: their shapes are
aligned at the last axis, and along each axis the lengths agree or one of them
is one, which repeats. The element type of a result is the promoted type of the
operands; single-precision results are rounded once per operation, and integer
results wrap to their word size. Comparisons give truth values. A result is
optional when an operand is.

Bitwise operations act on truth values as logic and on integers on their
two's complement bits; they refuse real numbers, as does inversion. Negation
refuses truth values.

A number written in a text enters as an array with no axes whose element type
follows the other operand: it takes that type, except that a real number lifts
integers to double precision.
-/

namespace ColliderML

inductive ArithOp where
  | add
  | sub
  | mul
  | div
  deriving DecidableEq, Inhabited, Repr

inductive CompareOp where
  | lt
  | le
  | gt
  | ge
  | eq
  | ne
  deriving DecidableEq, Inhabited, Repr

inductive BitOp where
  | and
  | or
  | xor
  deriving DecidableEq, Inhabited, Repr

namespace BitOp

def onBool : BitOp → Bool → Bool → Bool
  | .and, x, y => x && y
  | .or, x, y => x || y
  | .xor, x, y => x != y

def onBits : BitOp → Nat → Nat → Nat
  | .and, x, y => x &&& y
  | .or, x, y => x ||| y
  | .xor, x, y => x ^^^ y

/--
The operation on integers as two's complement bit strings: both are written in
a width that holds either with a sign bit to spare, combined, and read back
as a signed number of that width.
-/
def onInt (op : BitOp) (x y : Int) : Int :=
  let width := max (Nat.log2 x.natAbs) (Nat.log2 y.natAbs) + 2
  let m : Int := Int.pow 2 width
  let r : Int := (op.onBits (x % m).toNat (y % m).toNat : Nat)
  if r ≥ m / 2 then r - m else r

def functionName : BitOp → String
  | .and => "bitwise_and"
  | .or => "bitwise_or"
  | .xor => "bitwise_xor"

end BitOp

def unsupportedTypes (function : String) : Error :=
  .other .badType ("ufunc '" ++ function ++ "' not supported for the input types, and the inputs " ++
    "could not be safely coerced to any supported types according to the casting rule ''safe''")

namespace ArithOp

def onFloat : ArithOp → Float → Float → Float
  | .add, x, y => x + y
  | .sub, x, y => x - y
  | .mul, x, y => x * y
  | .div, x, y => x / y

def onInt : ArithOp → Int → Int → Int
  | .add, x, y => x + y
  | .sub, x, y => x - y
  | .mul, x, y => x * y
  | .div, x, y => x / y

def resultType (op : ArithOp) (a b : DType) : DType :=
  let t := DType.promote a b
  if op = .div && !t.isFloat then .float64
  else if t = .bool then .int64
  else t

end ArithOp

namespace CompareOp

def onFloat : CompareOp → Float → Float → Bool
  | .lt, x, y => x < y
  | .le, x, y => x ≤ y
  | .gt, x, y => x > y
  | .ge, x, y => x ≥ y
  | .eq, x, y => x == y
  | .ne, x, y => !(x == y)

def onInt : CompareOp → Int → Int → Bool
  | .lt, x, y => decide (x < y)
  | .le, x, y => decide (x ≤ y)
  | .gt, x, y => decide (x > y)
  | .ge, x, y => decide (x ≥ y)
  | .eq, x, y => x == y
  | .ne, x, y => x != y

end CompareOp

namespace Scalar

def arith (t : DType) (op : ArithOp) (x y : Scalar) : Scalar :=
  match t with
  | .float32 => .real (Single.round (op.onFloat x.toFloat y.toFloat))
  | .float64 => .real (op.onFloat x.toFloat y.toFloat)
  | .int32 => .int (wrap 32 (op.onInt x.toInt y.toInt))
  | .int64 => .int (wrap 64 (op.onInt x.toInt y.toInt))
  | .bool => .bool (x.truth || y.truth)

def compare (op : CompareOp) (x y : Scalar) : Bool :=
  match x, y with
  | .int a, .int b => op.onInt a b
  | .bool a, .bool b => op.onInt (if a then 1 else 0) (if b then 1 else 0)
  | .int a, .bool b => op.onInt a (if b then 1 else 0)
  | .bool a, .int b => op.onInt (if a then 1 else 0) b
  | x, y => op.onFloat x.toFloat y.toFloat

end Scalar

def broadcastShape (a b : Shape) : Option Shape :=
  let n := max a.length b.length
  let pa := List.replicate (n - a.length) 1 ++ a
  let pb := List.replicate (n - b.length) 1 ++ b
  (pa.zip pb).mapM (fun xy =>
    if xy.1 == xy.2 then some xy.1
    else if xy.1 == 1 then some xy.2
    else if xy.2 == 1 then some xy.1
    else none)

def broadcastSource (s : Shape) (pos : List Nat) : List Nat :=
  ((pos.drop (pos.length - s.length)).zip s).map (fun pd => if pd.2 == 1 then 0 else pd.1)

namespace Tensor

def scalar (dtype : DType) (s : Scalar) : Tensor := { dtype, shape := [], data := #[s] }

def zipWith (dtype : DType) (f : Scalar → Scalar → Scalar) (a b : Tensor) : Outcome Tensor :=
  match broadcastShape a.shape b.shape with
  | none => .error (.shapesMismatch a.shape.compactText b.shape.compactText)
  | some s =>
    let t := Tensor.build dtype s (fun pos =>
      f (a.get (broadcastSource a.shape pos)) (b.get (broadcastSource b.shape pos)))
    .ok { t with optional := a.optional || b.optional }

def arith (op : ArithOp) (a b : Tensor) : Outcome Tensor :=
  let t := op.resultType a.dtype b.dtype
  zipWith t (Scalar.arith t op) a b

def compare (op : CompareOp) (a b : Tensor) : Outcome Tensor :=
  let t := DType.promote a.dtype b.dtype
  let conv := fun (s : Scalar) => if t = .float32 then Scalar.cast .float32 s else s
  zipWith .bool (fun x y => .bool (Scalar.compare op (conv x) (conv y))) a b

def and (a b : Tensor) : Outcome Tensor :=
  zipWith .bool (fun x y => .bool (x.truth && y.truth)) a b

def or (a b : Tensor) : Outcome Tensor :=
  zipWith .bool (fun x y => .bool (x.truth || y.truth)) a b

def not (a : Tensor) : Tensor := a.map .bool (fun x => .bool !x.truth)

def bitwise (op : BitOp) (a b : Tensor) : Outcome Tensor :=
  let t := DType.promote a.dtype b.dtype
  if t.isFloat then .error (unsupportedTypes op.functionName)
  else if t = .bool then zipWith .bool (fun x y => .bool (op.onBool x.truth y.truth)) a b
  else zipWith t (fun x y => Scalar.cast t (.int (op.onInt x.toInt y.toInt))) a b

def negate (a : Tensor) : Outcome Tensor :=
  if a.dtype = .bool then
    .error (.other .badType ("The numpy boolean negative, the `-` operator, is not supported, " ++
      "use the `~` operator or the logical_not function instead."))
  else .ok (a.map a.dtype (fun x =>
    match x with
    | .real f => .real (-f)
    | s => Scalar.cast a.dtype (.int (-s.toInt))))

def invert (a : Tensor) : Outcome Tensor :=
  if a.dtype.isFloat then .error (unsupportedTypes "invert")
  else if a.dtype = .bool then .ok a.not
  else .ok (a.map a.dtype (fun x => Scalar.cast a.dtype (.int (-(x.toInt + 1)))))

def realType (t : DType) : DType := if t = .float32 then .float32 else .float64

def mapReal (a : Tensor) (single double : Float → Float) : Tensor :=
  let t := realType a.dtype
  a.map t (fun x => .real (if t = .float32 then single x.toFloat else double x.toFloat))

def sqrt (a : Tensor) : Tensor := a.mapReal Single.sqrt Float.sqrt

def square (a : Tensor) : Outcome Tensor := arith .mul a a

def literal (other : DType) (x : Scalar) : Tensor :=
  match x with
  | .real _ => let t := other.withLiteral true; scalar t (Scalar.cast t x)
  | s => let t := other.withLiteral false; scalar t (Scalar.cast t s)

end Tensor

end ColliderML
