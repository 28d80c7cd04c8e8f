import ColliderML.Error

/-!
Two-dimensional histograms of points on equal-width bins, as images are
pixelated.

An axis has a number of bins of equal width covering `[lo, hi)`; the width is
the span divided by the number of bins, so an axis without bins is a division
by zero, raised before any point is looked at. A point counts when it lies in
`[lo, hi)` on both axes, which no missing value (not a number) does. Its bin on
an axis is the whole part of its distance from `lo` in widths, at most the last
bin, so a value that rounds up to the end still lands inside. A point adds its
weight (one when unweighted) to its bin, in the order the points come.
-/

namespace ColliderML

/-- One axis of a histogram: `count` bins of equal width covering `[lo, hi)`. -/
structure BinAxis where
  lo : Float
  hi : Float
  count : Nat
  deriving Inhabited

namespace BinAxis

/-- The axis whose bins the edges bound: the first and last edges are the ends,
and there is one bin fewer than edges. No edge gives no axis. -/
def ofEdges (edges : List Float) : Option BinAxis :=
  match edges.head?, edges.getLast? with
  | some lo, some hi => some ⟨lo, hi, edges.length - 1⟩
  | _, _ => none

def width (a : BinAxis) : Outcome Float :=
  if a.count = 0 then .error .zeroDivision else .ok ((a.hi - a.lo) / Float.ofNat a.count)

def holds (a : BinAxis) (v : Float) : Bool := a.lo ≤ v && v < a.hi

def binOf (a : BinAxis) (w v : Float) : Outcome Nat :=
  if w == 0.0 then .error .zeroDivision
  else .ok (min ((v - a.lo) / w).toUInt64.toNat (a.count - 1))

end BinAxis

namespace Histogram

structure Point where
  x : Float
  y : Float
  weight : Float

def empty (xa ya : BinAxis) : Array (Array Float) :=
  Array.replicate xa.count (Array.replicate ya.count 0.0)

def add (xa ya : BinAxis) (wx wy : Float) (hist : Array (Array Float)) (p : Point) :
    Outcome (Array (Array Float)) :=
  if xa.holds p.x && ya.holds p.y then do
    let i ← xa.binOf wx p.x
    let j ← ya.binOf wy p.y
    pure (hist.modify i (fun row => row.modify j (· + p.weight)))
  else .ok hist

def fill (xa ya : BinAxis) (points : List Point) : Outcome (List (List Float)) := do
  let wx ← xa.width
  let wy ← ya.width
  let hist ← points.foldlM (add xa ya wx wy) (empty xa ya)
  pure (hist.toList.map Array.toList)

def points (xs ys : List Float) (weights : Option (List Float)) : List Point :=
  match weights with
  | some ws => ((xs.zip ys).zip ws).map (fun ((x, y), w) => ⟨x, y, w⟩)
  | none => (xs.zip ys).map (fun (x, y) => ⟨x, y, 1.0⟩)

end Histogram

end ColliderML
