import ColliderML.Tensor.Reshape
import ColliderML.Tensor.Index

/-!
# Samples and targets as a dataset holds them

A dataset holds its samples and its targets either as one array or as a pair
of arrays (the heights and widths of an image not binned). Each is also
marked by what the next read does with it: a holding that came as a list,
such as the empty start, is replaced by the next read, while an array is
appended to. A pair taken as one array stacks its two arrays, which must then
have one shape.
-/

namespace ColliderML

/-- What a dataset holds as its samples or targets. -/
inductive Holding where
  /-- One array. -/
  | array (t : Tensor)
  /-- A pair of arrays: heights and widths. -/
  | pair (height width : Tensor)
  deriving Inhabited

namespace Holding

def length : Holding → Nat
  | .array t => t.length
  | .pair _ _ => 2

def count : Holding → Nat
  | .array t => t.length
  | .pair h _ => h.length

def size : Holding → Nat
  | .array t => t.data.size
  | .pair h w => h.data.size + w.data.size

def toArray : Holding → Outcome Tensor
  | .array t => .ok t
  | .pair h w =>
    if h.shape == w.shape then Tensor.stack [h, w]
    else
      -- stacking stops at the first axis where the two shapes part
      let shared := Shape.sharedPrefix h.shape w.shape
      .error (.raggedSequence (shared.length + 1) (Shape.tupleText (2 :: shared)))

def entry (h : Holding) (i : Nat) : Outcome Tensor :=
  match h with
  | .array t => do
    if t.ndim == 0 then throw (.tooManyIndices 0 1)
    match t.rows[i]? with
    | some r => pure r
    | none => throw (.indexBeyondAxis i 0 t.length)
  | .pair a b =>
    match i with
    | 0 => .ok a
    | 1 => .ok b
    | _ => .error .listIndex

end Holding

/-- Samples or targets held by a dataset, with whether the next read
replaces them (a list) or appends to them (an array). -/
structure Held where
  value : Holding
  replaced : Bool := false
  deriving Inhabited

namespace Held

def empty : Held := { value := .array (Tensor.ofList .float64 []), replaced := true }

def emptyPair : Held :=
  { value := .pair (Tensor.ofList .float64 []) (Tensor.ofList .float64 []), replaced := true }

def ofArray (t : Tensor) : Held := { value := .array t }

/-- The holding after a read gave new values: replaced when held as a list,
else joined after it along the first axis. -/
def add (h : Held) (fresh : Holding) (asList : Bool) : Outcome Held := do
  if h.replaced then pure { value := fresh, replaced := asList }
  else
    let before ← h.value.toArray
    let after ← fresh.toArray
    pure (ofArray (← Tensor.concatAlong 0 [before, after]))

end Held

end ColliderML
