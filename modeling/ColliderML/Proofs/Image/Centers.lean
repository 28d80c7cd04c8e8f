import Mathlib
import ColliderML.Proofs.Image.Histogram

/-!
# Values moved to the centres of their pixels

Among rising edges, pixelation keeps a floating array's shape and type and
moves each value to the mean of the two edges around it, and a value outside
the edges, or not a number, to NaN (`BinCenters.SnapsToCentres`). The bin a
value's centre is found in, by comparing it with the edges, is the bin the
histogram then finds for it by dividing by the bin width: with exact
arithmetic on evenly spaced edges both give the same bin, so the histogram of
the moved points is that of the points (`Binning.fill_pixelPoint`).
-/

namespace ColliderML

namespace BinCenters

variable {edges : List Float}

theorem rising_float (hr : edges.IsChain (· < ·)) : Binning.Rising Binning.float edges :=
  hr.imp fun _ _ h => decide_eq_true h

theorem direction_of_isChain (hr : edges.IsChain (· < ·)) (h2 : 2 ≤ edges.length) : direction edges = 1 := by
  rw [Binning.direction_float]
  exact Binning.direction_of_rising Binning.lawful_float (rising_float hr) h2

theorem centerOf_of_le_of_lt (hr : edges.IsChain (· < ·)) {v : Float} {k : Nat} (hk : k + 1 < edges.length)
    (hlo : edges[k] ≤ v) (hhi : v < edges[k + 1]) : centerOf edges true v = (edges[k] + edges[k + 1]) / 2 := by
  rw [Binning.centerOf_float]
  exact Binning.centerOf_of_bin Binning.lawful_float (rising_float hr) hk (decide_eq_true hlo) (decide_eq_true hhi)

theorem isNaN_centerOf (hr : edges.IsChain (· < ·)) (h2 : 2 ≤ edges.length) {v : Float}
    (h : v < edges[0] ∨ edges[edges.length - 1] ≤ v ∨ v.isNaN = true) : (centerOf edges true v).isNaN = true := by
  rw [Binning.centerOf_float, Binning.centerOf_of_countUpTo_eq_nan]
  · decide
  rcases h with h | h | h
  · exact Or.inl (Binning.countUpTo_of_lt_head (by omega) (decide_eq_true h))
  · exact Or.inr (Binning.countUpTo_of_last_le Binning.lawful_float (rising_float hr) h2 (decide_eq_true h))
  · exact Or.inr (Binning.countUpTo_of_isNaN Binning.lawful_float h)

end BinCenters

namespace Tensor

theorem toCenters_of_isChain {t : Tensor} (ht : t.dtype = .float32 ∨ t.dtype = .float64) {edges : List Float}
    (hr : edges.IsChain (· < ·)) (h2 : 2 ≤ edges.length) :
    t.toCenters edges = .ok { t with data := t.data.map (fun s =>
      Scalar.cast t.dtype (.real (BinCenters.centerOf edges true s.toFloat))) } := by
  have hstore : ∀ x, BinCenters.store t.dtype x = .ok (Scalar.cast t.dtype (.real x)) := by
    intro x
    rcases ht with ht | ht <;> rw [ht] <;> rfl
  have hmap : ∀ g : Scalar → Scalar, t.data.mapM (fun s => (Except.ok (g s) : Outcome Scalar)) = .ok (t.data.map g) :=
    fun _ => Array.mapM_pure
  simp only [toCenters, BinCenters.direction_of_isChain hr h2, hstore, show ((1 : Int) == 0) = false from rfl,
    show ((1 : Int) == 1) = true from rfl, Bool.false_eq_true, if_false, hmap, Outcome.ok_bind]
  rfl

end Tensor

namespace Binning

variable {a b : ℚ} {n : ℕ}

def linspace (a b : ℚ) (n : ℕ) : List (Option ℚ) :=
  (List.range (n + 1)).map fun k : ℕ => some (a + k * ((b - a) / n))

@[simp] theorem length_linspace : (linspace a b n).length = n + 1 := by simp [linspace]

@[simp] theorem getElem_linspace {k : ℕ} (hk : k < (linspace a b n).length) :
    (linspace a b n)[k] = some (a + k * ((b - a) / n)) := by
  simp [linspace]

theorem rising_linspace (hn : 0 < n) (hab : a < b) : Rising exact (linspace a b n) := by
  have hw : 0 < (b - a) / n := div_pos (sub_pos.mpr hab) (by exact_mod_cast hn)
  refine List.isChain_map_of_isChain _ (fun i j (hij : i < j) => ?_)
    ((List.isChain_range_succ (· < ·) n).2 fun m _ => Nat.lt_succ_self m)
  have hij' : (i : ℚ) < j := by exact_mod_cast hij
  simpa using mul_lt_mul_of_pos_right hij' hw

theorem direction_linspace (hn : 0 < n) (hab : a < b) : direction exact (linspace a b n) = 1 :=
  direction_of_rising lawful_exact (rising_linspace hn hab) (by simp; omega)

theorem centerOf_linspace (hn : 0 < n) (hab : a < b) (x : ℚ) :
    centerOf exact (linspace a b n) true (some x) =
      if a ≤ x ∧ x < b then
        some ((a + ⌊(x - a) / ((b - a) / n)⌋₊ * ((b - a) / n) + (a + (⌊(x - a) / ((b - a) / n)⌋₊ + 1) * ((b - a) / n))) / 2)
      else none := by
  have hr := rising_linspace hn hab
  split_ifs with hx
  · obtain ⟨-, hk, hlo, hhi⟩ := bin_exactAxis hn hab hx.1 hx.2
    have hk1 : ⌊(x - a) / ((b - a) / n)⌋₊ + 1 < (linspace a b n).length := by simp; omega
    rw [centerOf_of_bin lawful_exact hr hk1 (by simpa using hlo) (by simpa [add_comm] using hhi)]
    simp
  · apply centerOf_of_countUpTo_eq_nan
    rcases not_and_or.mp hx with hx | hx
    · exact Or.inl (countUpTo_of_lt_head (by simp) (by simpa using lt_of_not_ge hx))
    · refine Or.inr (countUpTo_of_last_le lawful_exact hr (by simp; omega) ?_)
      have hnq : (n : ℚ) ≠ 0 := by exact_mod_cast hn.ne'
      simp only [length_linspace, Nat.add_sub_cancel, getElem_linspace, exact.le_some, decide_eq_true_eq]
      rw [mul_div_cancel₀ _ hnq]
      linarith [not_lt.mp hx]

theorem holds_centerOf_linspace (hn : 0 < n) (hab : a < b) (x : ℚ) :
    (exactAxis a b n).holds exact (centerOf exact (linspace a b n) true (some x)) =
        (exactAxis a b n).holds exact (some x) ∧
      (a ≤ x ∧ x < b → (exactAxis a b n).bin exact (some ((b - a) / n)) (centerOf exact (linspace a b n) true (some x)) =
        (exactAxis a b n).bin exact (some ((b - a) / n)) (some x)) := by
  have hw : 0 < (b - a) / n := div_pos (sub_pos.mpr hab) (by exact_mod_cast hn)
  rw [centerOf_linspace hn hab, holds_exactAxis_some]
  split_ifs with hx
  · obtain ⟨hbin, hk, hlo, hhi⟩ := bin_exactAxis hn hab hx.1 hx.2
    -- the centre lies in the value's bin, strictly between its edges
    have hcentre : InBin a b n ⌊(x - a) / ((b - a) / n)⌋₊
        ((a + ⌊(x - a) / ((b - a) / n)⌋₊ * ((b - a) / n) +
          (a + (⌊(x - a) / ((b - a) / n)⌋₊ + 1) * ((b - a) / n))) / 2) := by
      constructor <;> nlinarith
    obtain ⟨hin, hcbin⟩ := (inBin_iff hn hab hk).mp hcentre
    rw [holds_exactAxis_some]
    exact ⟨by simp [hin, hx], fun _ => hcbin.trans hbin.symm⟩
  · exact ⟨by rw [holds_exactAxis_none]; simpa using hx, fun h => absurd h hx⟩

section Snapped

variable {α β : Type} {A : Arith α} {xa ya : Axis α} {wx wy : α}

theorem cellTotal_map_congr {f g : β → Point α} (hcell : ∀ q, cellOf A xa ya wx wy (f q) = cellOf A xa ya wx wy (g q))
    (hweight : ∀ q, (f q).weight = (g q).weight) (l : List β) (i j : Nat) :
    cellTotal A xa ya wx wy (l.map f) i j = cellTotal A xa ya wx wy (l.map g) i j := by
  have hf : (fun p => cellOf A xa ya wx wy p == some (i, j)) ∘ f = (fun p => cellOf A xa ya wx wy p == some (i, j)) ∘ g := by
    funext q
    simp [hcell q]
  have hs : (fun s q => A.add s (f q).weight) = (fun s q => A.add s (g q).weight) := by
    funext s q
    rw [hweight q]
  rw [cellTotal, cellTotal, List.filter_map, List.filter_map, List.foldl_map, List.foldl_map, hf, hs]

end Snapped

section Pixelated

variable {x0 x1 y0 y1 : ℚ} {nx ny : ℕ}

def pixelPoint (x0 x1 y0 y1 : ℚ) (nx ny : ℕ) (q : ℚ × ℚ) : Point (Option ℚ) :=
  ⟨centerOf exact (linspace x0 x1 nx) true (some q.1), centerOf exact (linspace y0 y1 ny) true (some q.2), some 1⟩

theorem cellOf_pixelPoint (hx : 0 < nx) (hy : 0 < ny) (hxlt : x0 < x1) (hylt : y0 < y1) (q : ℚ × ℚ) :
    cellOf exact (exactAxis x0 x1 nx) (exactAxis y0 y1 ny) (some ((x1 - x0) / nx)) (some ((y1 - y0) / ny))
        (pixelPoint x0 x1 y0 y1 nx ny q) =
      cellOf exact (exactAxis x0 x1 nx) (exactAxis y0 y1 ny) (some ((x1 - x0) / nx)) (some ((y1 - y0) / ny))
        (exactPoint q) := by
  obtain ⟨hxh, hxb⟩ := holds_centerOf_linspace hx hxlt q.1
  obtain ⟨hyh, hyb⟩ := holds_centerOf_linspace hy hylt q.2
  unfold cellOf
  simp only [pixelPoint, exactPoint, hxh, hyh]
  by_cases hin : ((exactAxis x0 x1 nx).holds exact (some q.1) && (exactAxis y0 y1 ny).holds exact (some q.2)) = true
  · simp only [hin, if_true]
    simp only [Bool.and_eq_true, holds_exactAxis_some, decide_eq_true_eq] at hin
    rw [hxb hin.1, hyb hin.2]
  · simp only [hin, Bool.false_eq_true, if_false]

theorem fill_pixelPoint (hx : 0 < nx) (hy : 0 < ny) (hxlt : x0 < x1) (hylt : y0 < y1) (pts : List (ℚ × ℚ)) :
    fill exact (exactAxis x0 x1 nx) (exactAxis y0 y1 ny) (pts.map (pixelPoint x0 x1 y0 y1 nx ny)) =
      fill exact (exactAxis x0 x1 nx) (exactAxis y0 y1 ny) (pts.map exactPoint) := by
  have hbx := beq_step_exactAxis hx hxlt
  have hby := beq_step_exactAxis hy hylt
  rw [fill_eq hx hy hbx hby, fill_eq hx hy hbx hby, step_exactAxis hx, step_exactAxis hy]
  simp only [cellTotal_map_congr (cellOf_pixelPoint hx hy hxlt hylt) (fun _ => rfl)]

end Pixelated

end Binning

namespace BinCenters

/-- What moving values to the centres of their bins does among edges. -/
structure SnapsToCentres (edges : List Float) : Prop where
  /-- A floating array keeps its shape and type, and each value becomes its
  centre, kept in the array's type. -/
  toCenters_eq : ∀ t : Tensor, t.dtype = .float32 ∨ t.dtype = .float64 →
    t.toCenters edges = .ok { t with data := t.data.map (fun s =>
      Scalar.cast t.dtype (.real (centerOf edges true s.toFloat))) }
  /-- A value at or above edge `k` and below edge `k + 1` moves to their mean. -/
  centerOf_of_le_of_lt : ∀ (v : Float) (k : Nat) (hk : k + 1 < edges.length), edges[k] ≤ v → v < edges[k + 1] →
    centerOf edges true v = (edges[k] + edges[k + 1]) / 2
  /-- A value below the first edge, at or above the last, or not a number, moves to NaN. -/
  isNaN_centerOf : ∀ (v : Float) (h0 : 0 < edges.length),
    v < edges[0] ∨ edges[edges.length - 1] ≤ v ∨ v.isNaN = true → (centerOf edges true v).isNaN = true

end BinCenters

/-- Among rising edges, pixelation moves each value of a floating array to the
centre of the bin holding it and every other value to NaN; in exact arithmetic
the histogram on evenly spaced bins is the same for the moved points as for the
points themselves, so no point changes pixel. -/
theorem pixelation_snaps_within_pixel {edges : List Float} (hr : edges.IsChain (· < ·)) (h2 : 2 ≤ edges.length) :
    BinCenters.SnapsToCentres edges ∧
      ∀ (x0 x1 y0 y1 : ℚ) (nx ny : ℕ), 0 < nx → 0 < ny → x0 < x1 → y0 < y1 →
        Binning.direction Binning.exact (Binning.linspace x0 x1 nx) = 1 ∧
        Binning.direction Binning.exact (Binning.linspace y0 y1 ny) = 1 ∧
        ∀ pts : List (ℚ × ℚ),
          Binning.fill Binning.exact (Binning.exactAxis x0 x1 nx) (Binning.exactAxis y0 y1 ny)
              (pts.map (Binning.pixelPoint x0 x1 y0 y1 nx ny)) =
            Binning.fill Binning.exact (Binning.exactAxis x0 x1 nx) (Binning.exactAxis y0 y1 ny)
              (pts.map Binning.exactPoint) :=
  ⟨⟨fun _ ht => Tensor.toCenters_of_isChain ht hr h2, fun _ _ hk => BinCenters.centerOf_of_le_of_lt hr hk,
      fun _ _ => BinCenters.isNaN_centerOf hr h2⟩,
    fun _ _ _ _ _ _ hx hy hxlt hylt =>
      ⟨Binning.direction_linspace hx hxlt, Binning.direction_linspace hy hylt,
        Binning.fill_pixelPoint hx hy hxlt hylt⟩⟩

/-- Two unit bins from zero. -/
theorem pixelation_snaps_within_pixel_unitBins :
    ([0.0, 1.0, 2.0] : List Float).IsChain (· < ·) ∧ 2 ≤ ([0.0, 1.0, 2.0] : List Float).length ∧
      BinCenters.SnapsToCentres [0.0, 1.0, 2.0] :=
  ⟨by decide, by decide, (pixelation_snaps_within_pixel (by decide) (by decide)).1⟩

end ColliderML
