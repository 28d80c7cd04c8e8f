import ColliderML.Datum
import ColliderML.Number.Single

/-!
# Arrays

An array of event data has an element type, a shape (its length along each
axis, outermost first) and its elements in row-major order. Single-precision
elements are held as the doubles equal to them, so one element type of numbers
serves both precisions; the element type says which rounding applies.

An array whose entries were padded in as missing is *optional*: its type text
marks the element type with `?`, as in `2 * 4 * ?float64`.
-/

namespace ColliderML

inductive DType where
  | bool
  | int32
  | int64
  | float32
  | float64
  deriving DecidableEq, Inhabited, Repr

namespace DType

def name : DType → String
  | .bool => "bool"
  | .int32 => "int32"
  | .int64 => "int64"
  | .float32 => "float32"
  | .float64 => "float64"

def scalarClass : DType → String
  | .bool => "numpy.bool"
  | .int32 => "numpy.int32"
  | .int64 => "numpy.int64"
  | .float32 => "numpy.float32"
  | .float64 => "numpy.float64"

def ofName? : String → Option DType
  | "bool" => some .bool
  | "int32" => some .int32
  | "int64" => some .int64
  | "float32" => some .float32
  | "float64" => some .float64
  | _ => none

def isFloat : DType → Bool
  | .float32 | .float64 => true
  | _ => false

def isInteger : DType → Bool
  | .int32 | .int64 => true
  | _ => false

/--
The element type of a result of arithmetic on two arrays: the wider of two
integer or two floating types, and double precision when integers meet single
precision.
-/
def promote : DType → DType → DType
  | .bool, t => t
  | t, .bool => t
  | .int32, .int32 => .int32
  | .int32, .int64 | .int64, .int32 | .int64, .int64 => .int64
  | .float32, .float32 => .float32
  | .float32, .int32 | .float32, .int64 | .int32, .float32 | .int64, .float32 => .float64
  | .float64, _ | _, .float64 => .float64

/--
The element type of arithmetic between an array and a number written in the
text: the array's type, except that a real number lifts integers and truth
values to double precision.
-/
def withLiteral (t : DType) (real : Bool) : DType :=
  if real && !t.isFloat then .float64
  else if !real && t = .bool then .int64
  else t

end DType

inductive Scalar where
  | bool (b : Bool)
  | int (n : Int)
  | real (x : Float)
  deriving Inhabited

namespace Scalar

def toFloat : Scalar → Float
  | .bool b => if b then 1 else 0
  | .int n => Float.ofInt n
  | .real x => x

def truth : Scalar → Bool
  | .bool b => b
  | .int n => n != 0
  | .real x => x != 0

def toDatum : Scalar → Datum
  | .bool b => .bool b
  | .int n => .int n
  | .real x => .float x

def wrap (bits : Nat) (n : Int) : Int := Int.bmod n (Nat.pow 2 bits)

/-- The integer part of a double, toward zero; zero for what has none. Converting
a double that is not negative to a word already cuts it toward zero. -/
def truncate (x : Float) : Int :=
  if x.isNaN || x.isInf then 0
  else if x < 0 then -((-x).toUInt64.toNat : Int) else (x.toUInt64.toNat : Int)

def toInt : Scalar → Int
  | .bool b => if b then 1 else 0
  | .int n => n
  | .real x => truncate x

def cast (t : DType) (s : Scalar) : Scalar :=
  match t, s with
  | .bool, s => .bool s.truth
  | .int32, .int n => .int (wrap 32 n)
  | .int64, .int n => .int (wrap 64 n)
  | .int32, .bool b => .int (if b then 1 else 0)
  | .int64, .bool b => .int (if b then 1 else 0)
  | .int32, .real x => .int (wrap 32 (truncate x))
  | .int64, .real x => .int (wrap 64 (truncate x))
  | .float32, s => .real (Single.round s.toFloat)
  | .float64, s => .real s.toFloat

end Scalar

abbrev Shape := List Nat

namespace Shape

def size (s : Shape) : Nat := s.foldr (· * ·) 1

def positions : Shape → List (List Nat)
  | [] => [[]]
  | n :: rest => (List.range n).flatMap (fun i => (positions rest).map (i :: ·))

def offset (s : Shape) (pos : List Nat) : Nat :=
  (s.zip pos).foldl (fun acc dp => acc * dp.1 + dp.2) 0

def tupleText : Shape → String
  | [] => "()"
  | [n] => "(" ++ toString n ++ ",)"
  | ns => "(" ++ ", ".intercalate (ns.map toString) ++ ")"

def sharedPrefix : Shape → Shape → Shape
  | a :: as, b :: bs => if a == b then a :: sharedPrefix as bs else []
  | _, _ => []

def compactText : Shape → String
  | [n] => "(" ++ toString n ++ ",)"
  | ns => "(" ++ ",".intercalate (ns.map toString) ++ ")"

end Shape

/-- An array: an element type, a shape, and its elements in row-major order. -/
structure Tensor where
  dtype : DType
  shape : Shape
  data : Array Scalar
  /-- Whether missing entries were padded in; the type then marks its elements optional. -/
  optional : Bool := false
  deriving Inhabited

namespace Tensor

def ndim (t : Tensor) : Nat := t.shape.length

def length (t : Tensor) : Nat := t.shape.headD 0

def get (t : Tensor) (pos : List Nat) : Scalar := t.data.getD (t.shape.offset pos) default

def build (dtype : DType) (shape : Shape) (f : List Nat → Scalar) : Tensor :=
  { dtype, shape, data := (shape.positions.map f).toArray }

def ofList (dtype : DType) (xs : List Scalar) : Tensor :=
  { dtype, shape := [xs.length], data := xs.toArray }

def fill (dtype : DType) (shape : Shape) (s : Scalar) : Tensor :=
  { dtype, shape, data := Array.replicate shape.size s }

def astype (t : Tensor) (dtype : DType) : Tensor :=
  { dtype, shape := t.shape, data := if t.dtype == dtype then t.data else t.data.map (Scalar.cast dtype) }

def map (t : Tensor) (dtype : DType) (f : Scalar → Scalar) : Tensor :=
  { dtype, shape := t.shape, data := t.data.map f, optional := t.optional }

def typeText (t : Tensor) : String :=
  " * ".intercalate (t.shape.map toString ++ [(if t.optional then "?" else "") ++ t.dtype.name])

def nest (data : Array Scalar) : Shape → Nat → Datum
  | [], start => (data.getD start default).toDatum
  | n :: rest, start =>
    let k := Shape.size rest
    .list ((List.range n).map (fun i => nest data rest (start + i * k)))

def toDatum (t : Tensor) : Datum := nest t.data t.shape 0

def toList (t : Tensor) : List Scalar := t.data.toList

end Tensor

end ColliderML
