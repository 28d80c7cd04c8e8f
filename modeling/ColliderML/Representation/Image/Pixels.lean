import ColliderML.Representation.Histogram
import ColliderML.Tensor.Index

/-!
# Pixel grids of binned images

Each event of an image becomes a grid of pixels: rows by the width's bins,
columns by the height's, each pixel the total weight of the event's points in
it (a point weighs one when the image has no weight). The events are the rows
of the width's values; the height's and the weight's values are read row by
row beside them.

Within an event the points are taken in order, and a point counts when its
width lies in `[lo, hi)` of the width's edges and then its height in those of
the height's; its pixel on each axis is the whole number of bin widths from
`lo`, at most the last bin. A height or weight is looked up only for a point
that needs it, so a shorter row fails only when such a point reaches past
its end. Fewer than one edge on an axis is a grid of negative size.
-/

namespace ColliderML

namespace Pixels

/-- The numbers of a row of an array; nothing when the array has one axis,
whose entries are single numbers. -/
def row? (t : Tensor) (i : Nat) : Outcome (Option (Array Float)) :=
  match t.shape with
  | [] => .error (.other .outOfRange "too many indices for array: array is 0-dimensional, but 1 were indexed")
  | [n] => if i < n then .ok none else .error (.indexBeyondAxis i 0 n)
  | n :: _ =>
    match t.rows[i]? with
    | some r => .ok (some (r.data.map Scalar.toFloat))
    | none => .error (.indexBeyondAxis i 0 n)

def row (t : Tensor) (i : Nat) : Outcome (Array Float) := do
  match ← row? t i with
  | some r => pure r
  | none => throw (.other .outOfRange "invalid index to scalar variable.")

def binOf (a : BinAxis) (w v : Float) : Nat :=
  min ((v - a.lo) / w).toUInt64.toNat (a.count - 1)

def addPoint (xa ya : BinAxis) (wx wy : Float) (ys : Array Float) (ws : Option (Array Float))
    (grid : Array (Array Float)) (point : Float × Nat) : Outcome (Array (Array Float)) :=
  let (x, i) := point
  if !xa.holds x then .ok grid
  else
    match ys[i]? with
    | none => .error (.indexBeyondAxis i 0 ys.size)
    | some y =>
      if !ya.holds y then .ok grid
      else do
        let w ← match ws with
          | none => pure 1.0
          | some ws =>
            match ws[i]? with
            | some w => pure w
            | none => throw (.indexBeyondAxis i 0 ws.size)
        pure (grid.modify (binOf xa wx x) (·.modify (binOf ya wy y) (· + w)))

def ofEvent (xa ya : BinAxis) (xs ys : Array Float) (ws : Option (Array Float)) :
    Outcome (List (List Float)) := do
  let wx := (xa.hi - xa.lo) / Float.ofNat xa.count
  let wy := (ya.hi - ya.lo) / Float.ofNat ya.count
  let grid ← xs.toList.zipIdx.foldlM (addPoint xa ya wx wy ys ws) (Histogram.empty xa ya)
  pure (grid.toList.map Array.toList)

def ofEvents (widths heights : Tensor) (weights : Option Tensor) (wEdges hEdges : List Float) :
    Outcome (List (List (List Float))) := do
  if widths.ndim == 0 then throw (.other .badType "len() of unsized object")
  if wEdges.isEmpty || hEdges.isEmpty then throw (.other .badValue "negative dimensions are not allowed")
  let xa : BinAxis := ⟨wEdges.headD 0, wEdges.getLastD 0, wEdges.length - 1⟩
  let ya : BinAxis := ⟨hEdges.headD 0, hEdges.getLastD 0, hEdges.length - 1⟩
  (List.range widths.length).mapM (fun i => do
    let xs? ← row? widths i
    let ys ← row heights i
    let ws ← weights.mapM (fun t => row t i)
    match xs? with
    | some xs => ofEvent xa ya xs ys ws
    | none => throw (.other .badType ("object of type 'numpy." ++ widths.dtype.name ++ "' has no len()")))

end Pixels

end ColliderML
