import ColliderML.Proofs.Number.FloatDifference
import ColliderML.Metric.Thresholds

/-!
# What the thresholds from scores enumerate

The thresholds for a list of scores are one, then the scores sorted from the
highest down with every run of neighbours of zero difference cut to its last,
each lowered by a margin and kept within zero and one.

* On doubles without NaN, the kept scores descend, every score equals one of
  them, and they descend strictly exactly when no infinity occurs twice: equal
  infinities differ by NaN, so every infinity is kept as often as it occurs.
* In exact arithmetic, on scores within zero and one that are more than twice
  the margin apart when they differ, the kept scores are the distinct scores,
  strictly descending, and the scores a threshold admits (`max s m` at or above
  it) are exactly those among as many of the largest distinct scores as the
  threshold has predecessors.

The main result is `Metric.thresholds_enumerate_operating_points`.
-/

namespace ColliderML

namespace Metric

open FloatDifference

/-! ## Runs of equal neighbours -/

section Recipe

variable {α : Type} [Sub α] [OfNat α 0] [BEq α]

theorem runEnds_sublist (l : List α) : (runEnds l).Sublist l := by
  fun_induction runEnds l with
  | case1 => exact .slnil
  | case2 x => exact .refl _
  | case3 x y rest _ ih => exact ih.cons_cons x
  | case4 x y rest _ ih => exact ih.cons x

theorem exists_mem_runEnds (E : α → α → Prop) {l : List α} (hrefl : ∀ x ∈ l, E x x)
    (htrans : ∀ a b c, E a b → E b c → E a c)
    (hzero : ∀ x ∈ l, ∀ y ∈ l, (y - x != 0) = false → E y x) :
    ∀ x ∈ l, ∃ z ∈ runEnds l, E z x := by
  fun_induction runEnds l with
  | case1 => simp
  | case2 x => exact fun w hw => ⟨w, hw, hrefl w hw⟩
  | case3 x y rest _ ih =>
    have ih' := ih (fun a ha => hrefl a (List.mem_cons_of_mem _ ha))
      (fun a ha b hb => hzero a (List.mem_cons_of_mem _ ha) b (List.mem_cons_of_mem _ hb))
    intro w hw
    rcases List.mem_cons.1 hw with rfl | hw
    · exact ⟨w, List.mem_cons_self .., hrefl w (List.mem_cons_self ..)⟩
    · obtain ⟨z, hz, hzw⟩ := ih' w hw
      exact ⟨z, List.mem_cons_of_mem _ hz, hzw⟩
  | case4 x y rest hxy ih =>
    have ih' := ih (fun a ha => hrefl a (List.mem_cons_of_mem _ ha))
      (fun a ha b hb => hzero a (List.mem_cons_of_mem _ ha) b (List.mem_cons_of_mem _ hb))
    intro w hw
    rcases List.mem_cons.1 hw with rfl | hw
    · -- a value dropped for its successor is related to what the successor's run keeps
      obtain ⟨z, hz, hzy⟩ := ih' y (List.mem_cons_self ..)
      have hyw : E y w := hzero w (List.mem_cons_self ..) y (by simp) (by simpa using hxy)
      exact ⟨z, hz, htrans _ _ _ hzy hyw⟩
    · exact ih' w hw

theorem pairwise_runEnds {le lt : α → α → Prop} (hmix : ∀ a b c, le a b → lt b c → lt a c)
    {l : List α} (hdesc : l.Pairwise (fun x y => le y x))
    (hstep : l.Pairwise (fun x y => (y - x != 0) = true → lt y x)) :
    (runEnds l).Pairwise (fun x y => lt y x) := by
  fun_induction runEnds l with
  | case1 => exact .nil
  | case2 x => exact List.pairwise_singleton _ x
  | case3 x y rest hxy ih =>
    have hdesc' := List.pairwise_cons.1 hdesc
    have hstep' := List.pairwise_cons.1 hstep
    have hyx : lt y x := hstep'.1 y (List.mem_cons_self ..) hxy
    refine List.pairwise_cons.2 ⟨fun w hw => ?_, ih hdesc'.2 hstep'.2⟩
    rcases List.mem_cons.1 ((runEnds_sublist _).subset hw) with rfl | hw
    · exact hyx
    · exact hmix _ _ _ ((List.pairwise_cons.1 hdesc'.2).1 w hw) hyx
  | case4 x y rest _ ih => exact ih (List.pairwise_cons.1 hdesc).2 (List.pairwise_cons.1 hstep).2

theorem filter_runEnds (p : α → Bool) {l : List α}
    (hp : ∀ x ∈ l, ∀ y ∈ l, p x = true → (y - x != 0) = true) :
    (runEnds l).filter p = l.filter p := by
  fun_induction runEnds l with
  | case1 => rfl
  | case2 x => rfl
  | case3 x y rest _ ih =>
    rw [List.filter_cons, List.filter_cons,
      ih (fun a ha b hb => hp a (List.mem_cons_of_mem _ ha) b (List.mem_cons_of_mem _ hb))]
  | case4 x y rest hxy ih =>
    have hx : p x = false := by
      cases hpx : p x
      · rfl
      · exact absurd (hp x (List.mem_cons_self ..) y (by simp) hpx) hxy
    rw [List.filter_cons, hx, if_neg Bool.false_ne_true,
      ih (fun a ha b hb => hp a (List.mem_cons_of_mem _ ha) b (List.mem_cons_of_mem _ hb))]

end Recipe

/-! ## Doubles -/

theorem ascending_of_isNaN {x y : Float} (hx : x.isNaN = false) (hy : y.isNaN = false) :
    Tally.ascending x y = decide (x ≤ y) := by
  simp only [Tally.ascending, hx, hy, Bool.false_eq_true, if_false]

theorem ascending_trans (a b c : Float) (hab : Tally.ascending a b = true)
    (hbc : Tally.ascending b c = true) : Tally.ascending a c = true := by
  unfold Tally.ascending at *
  cases hc : c.isNaN
  · cases hb : b.isNaN
    · cases ha : a.isNaN
      · simp only [ha, hb, hc, Bool.false_eq_true, if_false, decide_eq_true_eq] at hab hbc ⊢
        exact FloatDifference.le_trans hab hbc
      · simp only [ha, hb, Bool.false_eq_true, if_false, if_true] at hab
    · simp only [hb, hc, Bool.false_eq_true, if_false, if_true] at hbc
  · rw [if_pos rfl]

theorem ascending_total (a b : Float) : (Tally.ascending a b || Tally.ascending b a) = true := by
  unfold Tally.ascending
  cases hb : b.isNaN
  · cases ha : a.isNaN
    · simp only [Bool.false_eq_true, if_false, Bool.or_eq_true, decide_eq_true_eq]
      exact FloatDifference.le_total ha hb
    · simp
  · simp

theorem pairwise_reverse_sortFloats {xs : List Float} (hnan : ∀ x ∈ xs, x.isNaN = false) :
    (Tally.sortFloats xs).reverse.Pairwise (fun a b => b ≤ a) := by
  have hperm := (List.reverse_perm _).trans (List.mergeSort_perm xs Tally.ascending)
  have hsorted := List.pairwise_reverse.2 (List.pairwise_mergeSort ascending_trans ascending_total xs)
  refine hsorted.imp_of_mem fun {a b} ha hb hab => ?_
  have ha' := hnan a (hperm.subset ha)
  have hb' := hnan b (hperm.subset hb)
  rw [ascending_of_isNaN hb' ha'] at hab
  exact of_decide_eq_true hab

theorem sub_bne_zero_of_isInf {x y : Float} (hx : x.isNaN = false) (hy : y.isNaN = false)
    (hinf : x.isInf = true) : (y - x != 0) = true := by
  rw [bne, sub_beq_zero hx hy, hinf]
  simp

theorem beq_of_sub_bne_zero {x y : Float} (hx : x.isNaN = false) (hy : y.isNaN = false)
    (h : (y - x != 0) = false) : (y == x) = true := by
  rw [bne, sub_beq_zero hx hy] at h
  simp only [Bool.not_eq_false', Bool.and_eq_true] at h
  exact h.1

theorem filter_isInf_runEnds {l : List Float} (hnan : ∀ x ∈ l, x.isNaN = false) :
    (runEnds l).filter Float.isInf = l.filter Float.isInf :=
  filter_runEnds _ fun x hx y hy hinf => sub_bne_zero_of_isInf (hnan x hx) (hnan y hy) hinf

theorem pairwise_lt_runEnds_iff {l : List Float} (hnan : ∀ x ∈ l, x.isNaN = false)
    (hdesc : l.Pairwise (fun a b => b ≤ a)) :
    (runEnds l).Pairwise (fun a b => b < a) ↔
      (l.filter Float.isInf).Pairwise (fun a b => (a == b) = false) := by
  constructor
  · intro hlt
    rw [← filter_isInf_runEnds hnan]
    exact (hlt.filter _).imp fun h => beq_eq_false_of_lt h
  · intro hinf
    rw [List.pairwise_filter] at hinf
    -- a non-zero difference between descending values is a strict step, an
    -- infinity repeated being the one exception the hypothesis rules out
    have hstep : l.Pairwise (fun x y => (y - x != 0) = true → y < x) := by
      refine (hdesc.and hinf).imp_of_mem fun {x y} hx hy ⟨hyx, hne⟩ hsub => ?_
      rw [bne, sub_beq_zero (hnan x hx) (hnan y hy)] at hsub
      cases hyxb : (y == x)
      · exact lt_of_le_of_beq_eq_false hyx hyxb
      · have hxinf : x.isInf = true := by simpa [hyxb] using hsub
        have hxy := hne hxinf (isInf_of_beq hyxb hxinf)
        rw [beq_symm hyxb] at hxy
        cases hxy
    exact @pairwise_runEnds Float _ _ _ (· ≤ ·) (· < ·) (fun _ _ _ => FloatOrder.lt_of_le_of_lt)
      l hdesc hstep

theorem scoreThresholds_eq {scores : Tensor} (hdim : scores.ndim = 1) (hne : scores.toList ≠ []) :
    scoreThresholds scores = .ok (Tensor.ofList .float64
      ((1 :: runEnds (Tally.sortFloats (scores.toList.map Scalar.toFloat)).reverse).map
        fun x => .real (clipUnit (x - margin)))) := by
  have hlen : (Tally.sortFloats (scores.toList.map Scalar.toFloat)).reverse.length =
      scores.toList.length := by
    rw [List.length_reverse, Tally.sortFloats, (List.mergeSort_perm _ _).length_eq, List.length_map]
  have hsorted : (Tally.sortFloats (scores.toList.map Scalar.toFloat)).reverse.isEmpty = false := by
    rw [List.isEmpty_eq_false_iff, ← List.length_pos_iff, hlen]
    exact List.length_pos_iff.2 hne
  simp only [scoreThresholds, hdim, bne_self_eq_false, Bool.false_eq_true, if_false, hsorted,
    thresholdsOfDescending, List.map_map]
  rfl

/-- On one-dimensional scores without NaN the thresholds are one and the kept
scores, lowered and clipped; the kept scores descend, are scores, stand for
every score, keep every infinity as often as it occurs, and descend strictly
exactly when no infinity occurs twice. -/
theorem scoreThresholds_spec {scores : Tensor} (hdim : scores.ndim = 1) (hne : scores.toList ≠ [])
    (hnan : ∀ s ∈ scores.toList, s.toFloat.isNaN = false) :
    ∃ vs : List Float,
      scoreThresholds scores =
        .ok (Tensor.ofList .float64 ((1 :: vs).map fun x => .real (clipUnit (x - margin)))) ∧
      vs.Pairwise (fun a b => b ≤ a) ∧
      (∀ v ∈ vs, v ∈ scores.toList.map Scalar.toFloat) ∧
      (∀ s ∈ scores.toList.map Scalar.toFloat, ∃ v ∈ vs, (v == s) = true) ∧
      (vs.filter Float.isInf).Perm ((scores.toList.map Scalar.toFloat).filter Float.isInf) ∧
      (vs.Pairwise (fun a b => b < a) ↔
        ((scores.toList.map Scalar.toFloat).filter Float.isInf).Pairwise
          (fun a b => (a == b) = false)) := by
  set values := scores.toList.map Scalar.toFloat with hvalues
  have hvnan : ∀ x ∈ values, x.isNaN = false := by
    intro x hx
    obtain ⟨s, hs, rfl⟩ := List.mem_map.1 hx
    exact hnan s hs
  set sorted := (Tally.sortFloats values).reverse with hsorted
  have hperm : sorted.Perm values := (List.reverse_perm _).trans (List.mergeSort_perm _ _)
  have hsnan : ∀ x ∈ sorted, x.isNaN = false := fun x hx => hvnan x (hperm.subset hx)
  have hdesc := pairwise_reverse_sortFloats hvnan
  have hsub := runEnds_sublist sorted
  refine ⟨runEnds sorted, scoreThresholds_eq hdim hne, hdesc.sublist hsub,
    fun v hv => hperm.subset (hsub.subset hv), fun s hs => ?_, ?_, ?_⟩
  · exact exists_mem_runEnds (fun a b => (a == b) = true) (fun x hx => beq_self (hsnan x hx))
      (fun _ _ _ => beq_trans)
      (fun x hx y hy => beq_of_sub_bne_zero (hsnan x hx) (hsnan y hy)) s (hperm.symm.subset hs)
  · rw [filter_isInf_runEnds hsnan]
    exact hperm.filter _
  · rw [pairwise_lt_runEnds_iff hsnan hdesc]
    exact (hperm.filter _).pairwise_iff beq_eq_false_comm

/-! ## Exact arithmetic -/

theorem clipUnit_of_le {x : ℚ} (h0 : 0 ≤ x) (h1 : x ≤ 1) : clipUnit x = x := by
  unfold clipUnit
  rw [if_neg (not_lt.2 h0), if_neg (not_lt.2 h1)]

theorem clipUnit_le {x y : ℚ} (hy : 0 ≤ y) (hxy : x ≤ y) (hx : x ≤ 1) : clipUnit x ≤ y := by
  unfold clipUnit
  split_ifs with hneg hbig
  · exact hy
  · exact absurd hx (not_le.2 hbig)
  · exact hxy

theorem sub_bne_zero_iff {x y : ℚ} : (y - x != 0) = true ↔ y ≠ x := by
  rw [bne_iff_ne, ne_eq, sub_eq_zero]

theorem runEnds_distinct {sorted : List ℚ} (hsorted : sorted.Pairwise (· ≥ ·)) :
    (runEnds sorted).Pairwise (· > ·) ∧ ∀ s, s ∈ runEnds sorted ↔ s ∈ sorted := by
  refine ⟨?_, fun s => ⟨fun hs => (runEnds_sublist sorted).subset hs, fun hs => ?_⟩⟩
  · refine @pairwise_runEnds ℚ _ _ _ (· ≤ ·) (· < ·) (fun _ _ _ => lt_of_le_of_lt) sorted hsorted ?_
    exact hsorted.imp fun hyx hne => lt_of_le_of_ne hyx (sub_bne_zero_iff.1 hne)
  · obtain ⟨z, hz, rfl⟩ := exists_mem_runEnds (· = ·) (fun _ _ => rfl) (fun _ _ _ => Eq.trans)
      (fun x _ y _ h => by simpa [sub_eq_zero] using h) s hs
    exact hz

theorem getElem_mem_take_iff {l : List ℚ} (hl : l.Nodup) {j k : Nat} (hj : j < l.length) :
    l[j] ∈ l.take k ↔ j < k := by
  rw [List.mem_take_iff_getElem]
  constructor
  · rintro ⟨i, hi, heq⟩
    rw [hl.getElem_inj_iff] at heq
    omega
  · intro hjk
    exact ⟨j, by omega, rfl⟩

/-- Exactly: on descending scores within zero and one, more than twice the
margin apart when they differ, threshold `k` (from the second on) admits a
score `s` (`max s m` at or above it) exactly when `s` is among the `k` largest
distinct scores. -/
theorem thresholdsOfDescending_admits {m : ℚ} (hm : 0 < m) {sorted : List ℚ}
    (hsorted : sorted.Pairwise (· ≥ ·)) (hunit : ∀ s ∈ sorted, 0 ≤ s ∧ s ≤ 1)
    (hapart : ∀ a ∈ sorted, ∀ b ∈ sorted, a ≠ b → 2 * m < |a - b|) (k : Nat)
    (hk : k < (thresholdsOfDescending m sorted).length) (hk1 : 1 ≤ k) {s : ℚ} (hs : s ∈ sorted) :
    (thresholdsOfDescending m sorted)[k] ≤ max s m ↔ s ∈ (runEnds sorted).take k := by
  obtain ⟨hdesc, hmem⟩ := runEnds_distinct hsorted
  have hlen : (thresholdsOfDescending m sorted).length = (runEnds sorted).length + 1 := by
    simp [thresholdsOfDescending]
  have hk' : k - 1 < (runEnds sorted).length := by omega
  have hget : (thresholdsOfDescending m sorted)[k] = clipUnit ((runEnds sorted)[k - 1] - m) := by
    obtain ⟨i, rfl⟩ : ∃ i, k = i + 1 := ⟨k - 1, by omega⟩
    simp [thresholdsOfDescending]
  obtain ⟨j, hj, rfl⟩ := List.getElem_of_mem ((hmem s).2 hs)
  have hkey := (hmem _).1 (List.getElem_mem hk')
  obtain ⟨hs0, hs1⟩ := hunit _ hs
  obtain ⟨-, hk1'⟩ := hunit _ hkey
  rw [hget, getElem_mem_take_iff (hdesc.imp ne_of_gt) hj]
  rcases Nat.lt_or_ge j k with hjk | hjk
  · -- one of the `k` largest: at or above the `k`-th, hence above its threshold
    have hle : (runEnds sorted)[k - 1] ≤ (runEnds sorted)[j] := by
      rcases Nat.lt_or_ge j (k - 1) with hlt | hge
      · exact le_of_lt (List.pairwise_iff_getElem.1 hdesc j (k - 1) hj hk' hlt)
      · have hjk' : j = k - 1 := by omega
        subst hjk'
        exact le_rfl
    refine iff_of_true (clipUnit_le (le_max_of_le_left hs0) ?_ (by linarith)) hjk
    linarith [le_max_left (runEnds sorted)[j] m]
  · -- a smaller one: more than twice the margin below the `k`-th, hence below its threshold
    have hlt : (runEnds sorted)[j] < (runEnds sorted)[k - 1] :=
      List.pairwise_iff_getElem.1 hdesc (k - 1) j hk' hj (by omega)
    have hgap := hapart _ hkey _ hs (ne_of_gt hlt)
    rw [abs_of_pos (sub_pos.2 hlt)] at hgap
    rw [clipUnit_of_le (by linarith) (by linarith)]
    refine iff_of_false (not_le.2 (max_lt (by linarith) (by linarith))) (by omega)

/-! ## Operating points -/

/-- The thresholds enumerate operating points. On one-dimensional doubles
without NaN they are one and the kept scores, lowered by the margin and clipped;
the kept scores descend, are scores, stand for every score, keep every infinity
as often as it occurs, and descend strictly exactly when no infinity occurs
twice. In exact arithmetic, on descending scores within zero and one, more than
twice the margin apart when they differ, the kept scores are the distinct
scores, strictly descending, and threshold `k` (from the second on) admits
exactly the scores among the `k` largest distinct ones. -/
theorem thresholds_enumerate_operating_points (scores : Tensor) (m : ℚ) (sorted : List ℚ)
    (hdim : scores.ndim = 1) (hne : scores.toList ≠ [])
    (hnan : ∀ s ∈ scores.toList, s.toFloat.isNaN = false)
    (hm : 0 < m) (hsorted : sorted.Pairwise (· ≥ ·)) (hunit : ∀ s ∈ sorted, 0 ≤ s ∧ s ≤ 1)
    (hapart : ∀ a ∈ sorted, ∀ b ∈ sorted, a ≠ b → 2 * m < |a - b|) :
    (∃ vs : List Float,
      scoreThresholds scores =
        .ok (Tensor.ofList .float64 ((1 :: vs).map fun x => .real (clipUnit (x - margin)))) ∧
      vs.Pairwise (fun a b => b ≤ a) ∧
      (∀ v ∈ vs, v ∈ scores.toList.map Scalar.toFloat) ∧
      (∀ s ∈ scores.toList.map Scalar.toFloat, ∃ v ∈ vs, (v == s) = true) ∧
      (vs.filter Float.isInf).Perm ((scores.toList.map Scalar.toFloat).filter Float.isInf) ∧
      (vs.Pairwise (fun a b => b < a) ↔
        ((scores.toList.map Scalar.toFloat).filter Float.isInf).Pairwise
          (fun a b => (a == b) = false))) ∧
    ((runEnds sorted).Pairwise (· > ·) ∧ (∀ s, s ∈ runEnds sorted ↔ s ∈ sorted) ∧
      ∀ k (hk : k < (thresholdsOfDescending m sorted).length), 1 ≤ k → ∀ s ∈ sorted,
        ((thresholdsOfDescending m sorted)[k] ≤ max s m ↔ s ∈ (runEnds sorted).take k)) :=
  ⟨scoreThresholds_spec hdim hne hnan, (runEnds_distinct hsorted).1, (runEnds_distinct hsorted).2,
    fun k hk hk1 _ hs => thresholdsOfDescending_admits hm hsorted hunit hapart k hk hk1 hs⟩

def tiedScores : Tensor := Tensor.ofList .float64 [.real 0.5, .real 0.25, .real 0.5]

theorem thresholds_enumerate_operating_points_tied :
    (∃ vs : List Float,
      scoreThresholds tiedScores =
        .ok (Tensor.ofList .float64 ((1 :: vs).map fun x => .real (clipUnit (x - margin)))) ∧
      vs.Pairwise (fun a b => b ≤ a) ∧
      (∀ v ∈ vs, v ∈ tiedScores.toList.map Scalar.toFloat) ∧
      (∀ s ∈ tiedScores.toList.map Scalar.toFloat, ∃ v ∈ vs, (v == s) = true) ∧
      (vs.filter Float.isInf).Perm ((tiedScores.toList.map Scalar.toFloat).filter Float.isInf) ∧
      (vs.Pairwise (fun a b => b < a) ↔
        ((tiedScores.toList.map Scalar.toFloat).filter Float.isInf).Pairwise
          (fun a b => (a == b) = false))) ∧
    ((runEnds [(1 / 2 : ℚ), 1 / 2, 1 / 4]).Pairwise (· > ·) ∧
      (∀ s, s ∈ runEnds [(1 / 2 : ℚ), 1 / 2, 1 / 4] ↔ s ∈ [(1 / 2 : ℚ), 1 / 2, 1 / 4]) ∧
      ∀ k (hk : k < (thresholdsOfDescending (1 / 10 : ℚ) [1 / 2, 1 / 2, 1 / 4]).length), 1 ≤ k →
        ∀ s ∈ [(1 / 2 : ℚ), 1 / 2, 1 / 4],
          ((thresholdsOfDescending (1 / 10 : ℚ) [1 / 2, 1 / 2, 1 / 4])[k] ≤ max s (1 / 10) ↔
            s ∈ (runEnds [(1 / 2 : ℚ), 1 / 2, 1 / 4]).take k)) :=
  thresholds_enumerate_operating_points tiedScores (1 / 10) [1 / 2, 1 / 2, 1 / 4] rfl
    (by simp [tiedScores, Tensor.toList, Tensor.ofList]) (by decide) (by norm_num) (by norm_num) (by norm_num) (by norm_num [abs_of_pos])

def twoInfinities : Tensor := Tensor.ofList .float64 [.real (1 / 0), .real (1 / 0)]

/-- An infinity that occurs twice is kept twice, its difference from itself
being NaN: the thresholds are three, not the two of one and the one distinct score. -/
theorem scoreThresholds_keeps_repeated_infinity :
    scoreThresholds twoInfinities =
      .ok (Tensor.ofList .float64 [.real (clipUnit (1 - margin)), .real 1, .real 1]) := by
  have hvalues : twoInfinities.toList.map Scalar.toFloat = [1 / 0, 1 / 0] := rfl
  -- sorting cannot be run by the kernel; two equal values sort to themselves
  have hsorted : Tally.sortFloats [1 / 0, 1 / 0] = [1 / 0, 1 / 0] := by
    show (List.replicate 2 (1 / 0 : Float)).mergeSort Tally.ascending = List.replicate 2 (1 / 0)
    exact List.perm_replicate.1 (List.mergeSort_perm _ _)
  have hkept : runEnds [(1 / 0 : Float), 1 / 0] = [1 / 0, 1 / 0] := by decide +kernel
  have hclip : clipUnit ((1 / 0 : Float) - margin) = 1 := by decide +kernel
  rw [scoreThresholds_eq rfl (by simp [twoInfinities, Tensor.toList, Tensor.ofList]), hvalues,
    hsorted]
  simp only [List.reverse_cons, List.reverse_nil, List.nil_append, List.cons_append, hkept,
    List.map_cons, List.map_nil, hclip]

end Metric

end ColliderML
