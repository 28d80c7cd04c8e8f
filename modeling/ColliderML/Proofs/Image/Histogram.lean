import Mathlib
import ColliderML.Proofs.Binning.Instances
import ColliderML.Representation.Image.Pixels

/-!
# Each point in one cell

A histogram of points on two axes of equal-width bins places a point both axes
hold in one cell, given by the whole numbers of bin widths it lies from the
axes' starts and at most the last bin, and any other point in none; every cell
holds the total weight of its points (`Histogram.PlacesEachPointOnce`). With
exact arithmetic that cell is the half-open box the point lies in, so each cell
counts the points in its box (`Binning.CountsInBoxes`). The pixel grid of an
event is this histogram of its points, read position by position.
-/

namespace ColliderML

namespace BinAxis

variable {a : BinAxis}

def step (a : BinAxis) : Float := (a.hi - a.lo) / Float.ofNat a.count

theorem step_eq (a : BinAxis) : (Binning.ofBinAxis a).step Binning.float = a.step := rfl

theorem width_of_pos (h : 0 < a.count) : a.width = .ok a.step := by
  simp [width, step, Nat.pos_iff_ne_zero.mp h]

theorem beq_zero_of_pos {w : Float} (h : 0.0 < w) : (w == 0.0) = false :=
  Binning.lawful_float.beq_of_lt (decide_eq_true h)

theorem holds_of_isNaN {v : Float} (h : v.isNaN = true) : a.holds v = false := by
  have hlt : (v < a.hi) = False := by
    simpa using FloatOrder.not_lt_of_isNaN_left h
  simp [holds, hlt]

theorem ofEdges_eq_some {edges : List Float} (h : ofEdges edges = some a) :
    a = ⟨edges.headD 0, edges.getLastD 0, edges.length - 1⟩ := by
  unfold ofEdges at h
  split at h
  · next lo hi hlo hhi =>
    cases h
    simp [List.headD_eq_head?_getD, List.getLastD_eq_getLast?, hlo, hhi]
  · cases h

end BinAxis

namespace Histogram

variable {xa ya : BinAxis}

def cell (xa ya : BinAxis) (p : Point) : Option (Nat × Nat) :=
  if xa.holds p.x && ya.holds p.y then some (Pixels.binOf xa xa.step p.x, Pixels.binOf ya ya.step p.y) else none

theorem cell_eq_cellOf (p : Point) :
    cell xa ya p = Binning.cellOf Binning.float (Binning.ofBinAxis xa) (Binning.ofBinAxis ya) xa.step ya.step
      (Binning.ofPoint p) := rfl

def cellWeight (xa ya : BinAxis) (points : List Point) (i j : Nat) : Float :=
  ((points.filter (fun p => cell xa ya p == some (i, j))).map Point.weight).foldl (· + ·) 0.0

theorem cellTotal_float (points : List Point) (i j : Nat) :
    Binning.cellTotal Binning.float (Binning.ofBinAxis xa) (Binning.ofBinAxis ya) xa.step ya.step
      (points.map Binning.ofPoint) i j = cellWeight xa ya points i j := by
  rw [Binning.cellTotal, cellWeight, List.filter_map, List.foldl_map, List.foldl_map]
  rfl

theorem fill_eq_cellWeight (hx : 0 < xa.count) (hy : 0 < ya.count) (hwx : 0.0 < xa.step) (hwy : 0.0 < ya.step)
    (points : List Point) :
    fill xa ya points = .ok (List.ofFn fun (i : Fin xa.count) => List.ofFn fun (j : Fin ya.count) =>
      cellWeight xa ya points i j) := by
  rw [Binning.fill_float, Binning.fill_eq hx hy (BinAxis.beq_zero_of_pos hwx) (BinAxis.beq_zero_of_pos hwy)]
  simp only [BinAxis.step_eq, cellTotal_float]
  rfl

theorem cell_lt (hx : 0 < xa.count) (hy : 0 < ya.count) {p : Point} {i j : Nat} (h : cell xa ya p = some (i, j)) :
    i < xa.count ∧ j < ya.count := by
  rw [cell_eq_cellOf] at h
  exact Binning.cellOf_lt (show 0 < (Binning.ofBinAxis xa).count from hx) hy h

theorem isSome_cell (p : Point) : (cell xa ya p).isSome = (xa.holds p.x && ya.holds p.y) := by
  rw [cell_eq_cellOf]
  exact Binning.isSome_cellOf

theorem cell_of_isNaN {p : Point} (h : p.x.isNaN = true ∨ p.y.isNaN = true) : cell xa ya p = none := by
  rcases h with h | h <;> simp [cell, BinAxis.holds_of_isNaN h]

theorem sum_length_filter_cell (hx : 0 < xa.count) (hy : 0 < ya.count) (points : List Point) :
    ∑ i : Fin xa.count, ∑ j : Fin ya.count, (points.filter (fun p => cell xa ya p == some ((i : Nat), (j : Nat)))).length =
      (points.filter (fun p => xa.holds p.x && ya.holds p.y)).length := by
  have h := @Binning.sum_length_filter_cellOf _ Binning.float (Binning.ofBinAxis xa) (Binning.ofBinAxis ya)
    xa.step ya.step hx hy (points.map Binning.ofPoint)
  simp only [List.filter_map, List.length_map] at h
  simp only [cell_eq_cellOf, ← isSome_cell]
  exact h

theorem points_replicate_one (xs ys : List Float) :
    points xs ys (some (List.replicate xs.length 1.0)) = points xs ys none := by
  induction xs generalizing ys with
  | nil => simp [points]
  | cons x xs ih =>
    cases ys with
    | nil => simp [points]
    | cons y ys =>
      have := ih ys
      simp only [points, List.length_cons, List.replicate_succ, List.zip_cons_cons, List.map_cons] at this ⊢
      rw [this]

end Histogram

namespace Pixels

variable {xa ya : BinAxis} {wx wy : Float}

/-- The point at a position of an event: its width, its height and its weight,
one when the image has no weights. -/
def pointAt (ys : Array Float) (ws : Option (Array Float)) (xi : Float × Nat) : Histogram.Point :=
  ⟨xi.1, ys.getD xi.2 0.0, match ws with | none => 1.0 | some w => w.getD xi.2 0.0⟩

theorem binOf_eq {a : BinAxis} {w : Float} (hw : (w == 0.0) = false) (v : Float) :
    a.binOf w v = .ok (binOf a w v) := by
  simp [BinAxis.binOf, hw, binOf]

theorem addPoint_eq_add (hwx : (wx == 0.0) = false) (hwy : (wy == 0.0) = false) {ys : Array Float}
    {ws : Option (Array Float)} {i : Nat} (hi : i < ys.size) (hw : ∀ w ∈ ws, i < w.size)
    (grid : Array (Array Float)) (x : Float) :
    addPoint xa ya wx wy ys ws grid (x, i) = Histogram.add xa ya wx wy grid (pointAt ys ws (x, i)) := by
  have hys : ys[i]? = some ys[i] := Array.getElem?_eq_getElem hi
  unfold addPoint Histogram.add
  -- the weight is read only for a point both axes hold, and then it is there
  rcases ws with _ | w
  · by_cases hx : xa.holds x <;> by_cases hy : ya.holds ys[i] <;>
      simp [pointAt, hys, hx, hy, binOf_eq hwx, binOf_eq hwy, Array.getD_eq_getD_getElem?]
  · have hwsize : i < w.size := hw w rfl
    have hwi : w[i]? = some w[i] := Array.getElem?_eq_getElem hwsize
    by_cases hx : xa.holds x <;> by_cases hy : ya.holds ys[i] <;>
      simp [pointAt, hys, hwi, hx, hy, binOf_eq hwx, binOf_eq hwy, Array.getD_eq_getD_getElem?]

theorem map_pointAt_zipIdx {xs ys : Array Float} {ws : Option (Array Float)} (hys : ys.size = xs.size)
    (hws : ∀ w ∈ ws, w.size = xs.size) :
    xs.toList.zipIdx.map (pointAt ys ws) = Histogram.points xs.toList ys.toList (ws.map Array.toList) := by
  apply List.ext_getElem
  · rcases ws with _ | w
    · simp [Histogram.points, hys]
    · simp [Histogram.points, hys, hws w rfl]
  · intro k h1 h2
    have hk : k < xs.size := by simpa using h1
    rcases ws with _ | w
    · simp [Histogram.points, pointAt, Array.getD_eq_getD_getElem?, Array.getElem?_eq_getElem (hys ▸ hk)]
    · have hwk : k < w.size := hws w rfl ▸ hk
      simp [Histogram.points, pointAt, Array.getD_eq_getD_getElem?, Array.getElem?_eq_getElem (hys ▸ hk),
        Array.getElem?_eq_getElem hwk]

theorem ofEvent_eq_fill (hx : 0 < xa.count) (hy : 0 < ya.count) (hwx : 0.0 < xa.step) (hwy : 0.0 < ya.step)
    {xs ys : Array Float} {ws : Option (Array Float)} (hys : ys.size = xs.size) (hws : ∀ w ∈ ws, w.size = xs.size) :
    ofEvent xa ya xs ys ws = Histogram.fill xa ya (Histogram.points xs.toList ys.toList (ws.map Array.toList)) := by
  rw [ofEvent, Histogram.fill, BinAxis.width_of_pos hx, BinAxis.width_of_pos hy, ← map_pointAt_zipIdx hys hws]
  simp only [Outcome.ok_bind]
  rw [List.foldlM_map, Outcome.foldlM_congr (g := fun grid xi => Histogram.add xa ya xa.step ya.step grid (pointAt ys ws xi))]
  rintro ⟨x, i⟩ hxi grid
  have hi : i < xs.size := by simpa using List.snd_lt_of_mem_zipIdx hxi
  exact addPoint_eq_add (BinAxis.beq_zero_of_pos hwx) (BinAxis.beq_zero_of_pos hwy) (hys ▸ hi)
    (fun w hw => hws w hw ▸ hi) grid x

theorem ofEvents_getElem? {widths heights : Tensor} {weights : Option Tensor} {wEdges hEdges : List Float}
    {grids : List (List (List Float))} (h : ofEvents widths heights weights wEdges hEdges = .ok grids)
    {i : Nat} {g : List (List Float)} (hg : grids[i]? = some g) :
    ∃ xs ys ws, row? widths i = .ok (some xs) ∧ row heights i = .ok ys ∧
      weights.mapM (fun t => row t i) = .ok ws ∧
      ofEvent ⟨wEdges.headD 0, wEdges.getLastD 0, wEdges.length - 1⟩
        ⟨hEdges.headD 0, hEdges.getLastD 0, hEdges.length - 1⟩ xs ys ws = .ok g := by
  unfold ofEvents at h
  by_cases h0 : (widths.ndim == 0) = true
  · simp only [h0, if_true] at h
    exact nomatch h
  by_cases he : (wEdges.isEmpty || hEdges.isEmpty) = true
  · simp only [h0, he, if_true, Bool.false_eq_true, if_false] at h
    exact nomatch h
  simp only [h0, he, Bool.false_eq_true, if_false] at h
  obtain ⟨j, hj, hrow⟩ := Outcome.mapM_eq_ok_getElem? h hg
  obtain rfl : j = i := by
    obtain ⟨hi, hij⟩ := List.getElem?_eq_some_iff.mp hj
    rw [List.getElem_range] at hij
    exact hij.symm
  obtain ⟨xs?, hxs, hrow⟩ := Outcome.bind_eq_ok.mp hrow
  obtain ⟨ys, hys, hrow⟩ := Outcome.bind_eq_ok.mp hrow
  obtain ⟨ws, hws, hrow⟩ := Outcome.bind_eq_ok.mp hrow
  rcases xs? with _ | xs
  · exact nomatch hrow
  · exact ⟨xs, ys, ws, hxs, hys, hws, hrow⟩

end Pixels

namespace Binning

variable {x0 x1 y0 y1 : ℚ} {nx ny : ℕ}

theorem beq_step_exactAxis {lo hi : ℚ} {n : ℕ} (hn : 0 < n) (hlt : lo < hi) :
    exact.beq ((exactAxis lo hi n).step exact) exact.zero = false := by
  rw [step_exactAxis hn, exact.zero_eq, exact.beq_some]
  exact decide_eq_false (div_pos (sub_pos.mpr hlt) (by exact_mod_cast hn)).ne'

theorem cellOf_exactPoint (hx : 0 < nx) (hy : 0 < ny) (hxlt : x0 < x1) (hylt : y0 < y1) {q : ℚ × ℚ}
    (hqx : x0 ≤ q.1 ∧ q.1 < x1) (hqy : y0 ≤ q.2 ∧ q.2 < y1) :
    cellOf exact (exactAxis x0 x1 nx) (exactAxis y0 y1 ny) (some ((x1 - x0) / nx)) (some ((y1 - y0) / ny))
        (exactPoint q) = some (⌊(q.1 - x0) / ((x1 - x0) / nx)⌋₊, ⌊(q.2 - y0) / ((y1 - y0) / ny)⌋₊) := by
  simp [cellOf, exactPoint, holds_exactAxis_some, hqx, hqy, (bin_exactAxis hx hxlt hqx.1 hqx.2).1,
    (bin_exactAxis hy hylt hqy.1 hqy.2).1]

theorem fill_exact (hx : 0 < nx) (hy : 0 < ny) (hxlt : x0 < x1) (hylt : y0 < y1) (pts : List (ℚ × ℚ)) :
    fill exact (exactAxis x0 x1 nx) (exactAxis y0 y1 ny) (pts.map exactPoint) =
      .ok (List.ofFn fun (i : Fin nx) => List.ofFn fun (j : Fin ny) =>
        some ((pts.filter fun q => InBin x0 x1 nx i q.1 ∧ InBin y0 y1 ny j q.2).length : ℚ)) := by
  have hcell : ∀ (i : Fin nx) (j : Fin ny),
      cellTotal exact (exactAxis x0 x1 nx) (exactAxis y0 y1 ny) (some ((x1 - x0) / nx)) (some ((y1 - y0) / ny))
          (pts.map exactPoint) i j =
        some ((pts.filter fun q => InBin x0 x1 nx i q.1 ∧ InBin y0 y1 ny j q.2).length : ℚ) := by
    intro i j
    rw [cellTotal, List.filter_map, exact.zero_eq, foldl_add_weight, zero_add]
    congr 3
    apply List.filter_congr
    intro q _
    rw [Function.comp_apply, Bool.eq_iff_iff, beq_iff_eq, decide_eq_true_iff,
      cellOf_exactPoint_eq_some hx hy hxlt hylt i.isLt j.isLt]
  rw [fill_eq hx hy (beq_step_exactAxis hx hxlt) (beq_step_exactAxis hy hylt), step_exactAxis hx,
    step_exactAxis hy]
  exact congrArg Except.ok (congrArg List.ofFn (funext fun i => congrArg List.ofFn (funext fun j => hcell i j)))

end Binning

namespace Histogram

/-- What a histogram on two axes does with points. -/
structure PlacesEachPointOnce (xa ya : BinAxis) : Prop where
  /-- Each cell holds the total weight of the points in it. -/
  fill_eq : ∀ points, fill xa ya points = .ok (List.ofFn fun (i : Fin xa.count) =>
    List.ofFn fun (j : Fin ya.count) => cellWeight xa ya points i j)
  /-- A point's cell lies in the histogram. -/
  cell_lt : ∀ p i j, cell xa ya p = some (i, j) → i < xa.count ∧ j < ya.count
  /-- A point has a cell exactly when both axes hold it. -/
  isSome_cell : ∀ p, (cell xa ya p).isSome = (xa.holds p.x && ya.holds p.y)
  /-- A point with a coordinate that is not a number has none. -/
  cell_of_isNaN : ∀ p : Point, p.x.isNaN = true ∨ p.y.isNaN = true → cell xa ya p = none
  /-- Counted cell by cell, the points placed are those both axes hold, once each. -/
  sum_length_filter_cell : ∀ points : List Point, ∑ i : Fin xa.count, ∑ j : Fin ya.count,
      (points.filter (fun p => cell xa ya p == some ((i : Nat), (j : Nat)))).length =
    (points.filter (fun p => xa.holds p.x && ya.holds p.y)).length
  /-- Weights of one are no weights. -/
  fill_replicate_one : ∀ xs ys : List Float,
    fill xa ya (Histogram.points xs ys (some (List.replicate xs.length 1.0))) = fill xa ya (Histogram.points xs ys none)
  /-- The pixel grid of an event whose rows are of one length is the histogram of its points. -/
  ofEvent_eq_fill : ∀ (xs ys : Array Float) (ws : Option (Array Float)), ys.size = xs.size →
    (∀ w ∈ ws, w.size = xs.size) →
      Pixels.ofEvent xa ya xs ys ws = fill xa ya (Histogram.points xs.toList ys.toList (ws.map Array.toList))
  /-- Pixelating events on edges that bound these axes gives each event the grid of its row. -/
  ofEvents_getElem? : ∀ widths heights weights wEdges hEdges grids, BinAxis.ofEdges wEdges = some xa →
    BinAxis.ofEdges hEdges = some ya → Pixels.ofEvents widths heights weights wEdges hEdges = .ok grids →
      ∀ i g, grids[i]? = some g → ∃ xs ys ws, Pixels.row? widths i = .ok (some xs) ∧
        Pixels.row heights i = .ok ys ∧ weights.mapM (fun t => Pixels.row t i) = .ok ws ∧
        Pixels.ofEvent xa ya xs ys ws = .ok g

end Histogram

namespace Binning

/-- What a histogram does with points of weight one in exact arithmetic. -/
structure CountsInBoxes (x0 x1 y0 y1 : ℚ) (nx ny : ℕ) : Prop where
  /-- A point the axes hold falls in the cell of the whole numbers of widths it
  lies from the axes' starts. -/
  cellOf_eq : ∀ q : ℚ × ℚ, x0 ≤ q.1 ∧ q.1 < x1 → y0 ≤ q.2 ∧ q.2 < y1 →
    cellOf exact (exactAxis x0 x1 nx) (exactAxis y0 y1 ny) (some ((x1 - x0) / nx)) (some ((y1 - y0) / ny))
      (exactPoint q) = some (⌊(q.1 - x0) / ((x1 - x0) / nx)⌋₊, ⌊(q.2 - y0) / ((y1 - y0) / ny)⌋₊)
  /-- Each cell counts the points in its half-open box. -/
  fill_eq : ∀ pts : List (ℚ × ℚ), fill exact (exactAxis x0 x1 nx) (exactAxis y0 y1 ny) (pts.map exactPoint) =
    .ok (List.ofFn fun (i : Fin nx) => List.ofFn fun (j : Fin ny) =>
      some ((pts.filter fun q => InBin x0 x1 nx i q.1 ∧ InBin y0 y1 ny j q.2).length : ℚ))

theorem countsInBoxes {x0 x1 y0 y1 : ℚ} {nx ny : ℕ} (hx : 0 < nx) (hy : 0 < ny) (hxlt : x0 < x1)
    (hylt : y0 < y1) : CountsInBoxes x0 x1 y0 y1 nx ny where
  cellOf_eq _ hqx hqy := cellOf_exactPoint hx hy hxlt hylt hqx hqy
  fill_eq := fill_exact hx hy hxlt hylt

end Binning

/-- A histogram on axes with bins of positive width places each point both axes
hold in exactly one cell, inside the histogram, and every other point, one with
a coordinate that is not a number included, in none; a cell holds the total
weight of its points, and an event's pixel grid is the histogram of its points.
In exact arithmetic that cell is the half-open box holding the point. -/
theorem histogram_places_each_point_once {xa ya : BinAxis} (hx : 0 < xa.count) (hy : 0 < ya.count)
    (hwx : 0.0 < xa.step) (hwy : 0.0 < ya.step) :
    Histogram.PlacesEachPointOnce xa ya ∧
      ∀ (x0 x1 y0 y1 : ℚ) (nx ny : ℕ), 0 < nx → 0 < ny → x0 < x1 → y0 < y1 →
        Binning.CountsInBoxes x0 x1 y0 y1 nx ny := by
  refine ⟨⟨Histogram.fill_eq_cellWeight hx hy hwx hwy, fun _ _ _ => Histogram.cell_lt hx hy,
    Histogram.isSome_cell, fun _ => Histogram.cell_of_isNaN, Histogram.sum_length_filter_cell hx hy,
    fun xs ys => by rw [Histogram.points_replicate_one], fun _ _ _ => Pixels.ofEvent_eq_fill hx hy hwx hwy, ?_⟩,
    fun _ _ _ _ _ _ => Binning.countsInBoxes⟩
  intro widths heights weights wEdges hEdges grids hxa hya h i g hg
  rw [BinAxis.ofEdges_eq_some hxa, BinAxis.ofEdges_eq_some hya]
  exact Pixels.ofEvents_getElem? h hg

/-- Two bins across and one up over the unit height. -/
theorem histogram_places_each_point_once_twoByOne :
    (0 < 2 ∧ 0 < 1 ∧ 0.0 < BinAxis.step ⟨0.0, 2.0, 2⟩ ∧ 0.0 < BinAxis.step ⟨0.0, 1.0, 1⟩) ∧
      Histogram.PlacesEachPointOnce ⟨0.0, 2.0, 2⟩ ⟨0.0, 1.0, 1⟩ :=
  ⟨⟨by decide, by decide, by decide, by decide⟩,
    (histogram_places_each_point_once (by decide) (by decide) (by decide) (by decide)).1⟩

end ColliderML
