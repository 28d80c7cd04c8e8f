import ColliderML.Proofs.Dataset.Partition
import ColliderML.Proofs.Number.FloatRounding
import ColliderML.Boosting.Model

/-!
# Holding out the last rows for validation

Fitting with a share `v` of validation rows and no validation data counts
`k = ⌊v · n⌋` of the `n` rows and slices them from the end: the rows `[-k:]`
validate and the rows `[:-k]` train, which is fitting on the rows before the
cut with the rows from it on as validation data
(`BoostedTrees.fit_eq_of_slices`). For `0 < v < 1`, `k` lies from zero up to
below `n` (`FloatRounding.truncate_mul_ofNat_bounds`), so the two slices hold
every pair of a sample row and its target once, in order
(`BoostedTrees.fit_validation_split`). A slice bound of `-0` is the start, not
the end: when `v · n` is below one, `k` is zero, every row validates and none
trains (`BoostedTrees.fit_one_row_trains_on_none`).
-/

namespace ColliderML

theorem sliceRange_before_last (n : Nat) {k : Int} (hk : 0 ≤ k) :
    sliceRange n none (some (-k)) = List.range (if k = 0 then 0 else n - k.toNat) := by
  rcases eq_or_lt_of_le hk with rfl | hpos
  · simp [sliceRange]
  · simp [sliceRange, hpos, hpos.ne', show (max 0 (-k + n)).toNat = n - k.toNat by omega]

theorem sliceRange_from_last (n : Nat) {k : Int} (hk : 0 ≤ k) :
    sliceRange n (some (-k)) none =
      (List.range (n - if k = 0 then 0 else n - k.toNat)).map (· + if k = 0 then 0 else n - k.toNat) := by
  rcases eq_or_lt_of_le hk with rfl | hpos
  · simp [sliceRange]
  · simp [sliceRange, hpos, hpos.ne', show (max 0 (-k + n)).toNat = n - k.toNat by omega]

namespace Split

theorem pairs_cut {S T : Tensor} {n : Nat} {rs rt : Shape} (hS : S.shape = n :: rs) (hT : T.shape = n :: rt)
    (hSf : S.Filled) (hTf : T.Filled) {c : Nat} (hc : c ≤ n) :
    ∃ St Tt Sv Tv, S.takeRows (List.range c) = .ok St ∧ T.takeRows (List.range c) = .ok Tt ∧
      S.takeRows ((List.range (n - c)).map (· + c)) = .ok Sv ∧
      T.takeRows ((List.range (n - c)).map (· + c)) = .ok Tv ∧
      Aligned St Tt ∧ Aligned Sv Tv ∧ Tt.ndim = T.ndim ∧
      pairs St Tt = (pairs S T).take c ∧ pairs Sv Tv = (pairs S T).drop c := by
  have hbefore : ∀ p ∈ List.range c, p < n := fun p hp => by simp at hp; omega
  have hafter : ∀ p ∈ (List.range (n - c)).map (· + c), p < n := fun p hp => by simp at hp; omega
  obtain ⟨St, Tt, hSt, hTt, hAt, hpt⟩ := pairs_takeRows hS hT hSf hTf hbefore
  obtain ⟨Sv, Tv, hSv, hTv, hAv, hpv⟩ := pairs_takeRows hS hT hSf hTf hafter
  obtain ⟨Tt', hTt', -, hshape, -⟩ := Tensor.rows_takeRows hT hTf hbefore
  rw [hTt] at hTt'
  cases hTt'
  -- all pairs read in order: those before the cut, then those after it
  have hall : pairs S T = (List.range c).map (fun p => (S.rows.getD p default, T.rows.getD p default)) ++
      ((List.range (n - c)).map (· + c)).map (fun p => (S.rows.getD p default, T.rows.getD p default)) := by
    rw [← map_range_pairs hS hT, ← List.map_append, ← Nat.add_sub_cancel' hc, List.range_add,
      Nat.add_sub_cancel_left]
    simp [Nat.add_comm]
  refine ⟨St, Tt, Sv, Tv, hSt, hTt, hSv, hTv, hAt, hAv, by simp [Tensor.ndim, hshape, hT], ?_, ?_⟩
  · rw [hall, hpt, List.take_left' (by simp)]
  · rw [hall, hpv, List.drop_left' (by simp)]

end Split

namespace BoostedTrees

/-- Where fitting with a share `v` of validation rows cuts `n` rows: before the
last `⌊v · n⌋` of them, or before the first row when that is zero. -/
def splitPoint (n : Nat) (v : Float) : Nat :=
  if Scalar.truncate (v * Float.ofNat n) = 0 then 0 else n - (Scalar.truncate (v * Float.ofNat n)).toNat

theorem fit_eq_of_slices {m : BoostedTrees} {x y xt yt xv yv : Tensor} {v : Float} {w : Option Tensor}
    (hv : (v == 0) = false) (hlen : y.length = x.length)
    (hxv : sliceRows x (some (-Scalar.truncate (v * Float.ofNat x.length))) none = .ok xv)
    (hxt : sliceRows x none (some (-Scalar.truncate (v * Float.ofNat x.length))) = .ok xt)
    (hyv : sliceRows y (some (-Scalar.truncate (v * Float.ofNat x.length))) none = .ok yv)
    (hyt : sliceRows y none (some (-Scalar.truncate (v * Float.ofNat x.length))) = .ok yt)
    (hdim : yt.ndim = y.ndim) :
    m.fit x y v none w = m.fit xt yt 0 (some (xv, yv)) w := by
  simp only [fit, hv, hlen, hxv, hxt, hyv, hyt, hdim, Bool.false_eq_true, if_false, Outcome.ok_bind,
    Outcome.pure_eq_ok]

/-- Fitting samples and targets in rows with a share `v` of validation rows,
`0 < v < 1`, and no validation data: with `k = ⌊v · n⌋` of the `n` rows, from
zero up and below `n`, it fits on the rows before the cut `splitPoint` and
validates on the rows from it on, which between them hold every pair of a
sample row and its target once, in order. The training rows are none exactly
when `k` is zero or there are no rows: a slice that ends at `-0` ends at the start. -/
theorem fit_validation_split (m : BoostedTrees) {x y : Tensor} (h : Split.Aligned x y) (w : Option Tensor)
    {v : Float} (hv0 : 0 < v) (hv1 : v < 1) :
    (0 ≤ Scalar.truncate (v * Float.ofNat x.length) ∧
        (0 < x.length → Scalar.truncate (v * Float.ofNat x.length) < x.length)) ∧
      ∃ xt yt xv yv, m.fit x y v none w = m.fit xt yt 0 (some (xv, yv)) w ∧
        Split.Aligned xt yt ∧ Split.Aligned xv yv ∧
        Split.pairs xt yt = (Split.pairs x y).take (splitPoint x.length v) ∧
        Split.pairs xv yv = (Split.pairs x y).drop (splitPoint x.length v) ∧
        (Split.pairs xt yt = [] ↔ Scalar.truncate (v * Float.ofNat x.length) = 0 ∨ x.length = 0) := by
  obtain ⟨n, rs, rt, hS, hT, hSf, hTf⟩ := h
  have hxlen : x.length = n := by simp [Tensor.length, hS]
  have hylen : y.length = n := by simp [Tensor.length, hT]
  have hk := FloatRounding.truncate_mul_ofNat_bounds hv0 hv1 x.length
  refine ⟨hk, ?_⟩
  rw [hxlen] at hk ⊢
  obtain ⟨hk0, hkn⟩ := hk
  have hcut : splitPoint n v ≤ n := by
    unfold splitPoint
    split <;> omega
  obtain ⟨xt, yt, xv, yv, hxt, hyt, hxv, hyv, hAt, hAv, hdim, hpt, hpv⟩ := Split.pairs_cut hS hT hSf hTf hcut
  -- the slices `[-k:]` and `[:-k]` are the rows from the cut on and before it
  have hbefore : ∀ t : Tensor, t.length = n →
      sliceRows t none (some (-Scalar.truncate (v * Float.ofNat n))) = t.takeRows (List.range (splitPoint n v)) := by
    intro t ht
    rw [sliceRows, ht, sliceRange_before_last n hk0]
    rfl
  have hfrom : ∀ t : Tensor, t.length = n →
      sliceRows t (some (-Scalar.truncate (v * Float.ofNat n))) none =
        t.takeRows ((List.range (n - splitPoint n v)).map (· + splitPoint n v)) := by
    intro t ht
    rw [sliceRows, ht, sliceRange_from_last n hk0]
    rfl
  have hfit : m.fit x y v none w = m.fit xt yt 0 (some (xv, yv)) w := by
    refine fit_eq_of_slices (FloatDifference.beq_eq_false_of_lt hv0) (hylen.trans hxlen.symm) ?_ ?_ ?_ ?_ hdim
    · rw [hxlen, hfrom x hxlen]
      exact hxv
    · rw [hxlen, hbefore x hxlen]
      exact hxt
    · rw [hxlen, hfrom y hylen]
      exact hyv
    · rw [hxlen, hbefore y hylen]
      exact hyt
  refine ⟨xt, yt, xv, yv, hfit, hAt, hAv, hpt, hpv, ?_⟩
  -- the training pairs are the first `splitPoint n v` of `n`
  have hlen : (Split.pairs x y).length = n := by
    simp [Split.pairs, Tensor.length_rows hS, Tensor.length_rows hT]
  rw [hpt, ← List.length_eq_zero_iff, List.length_take, hlen]
  unfold splitPoint
  split <;> omega



def oneRowSamples : Tensor := { dtype := .float64, shape := [1, 2], data := #[.real 0.5, .real 1.5] }

def oneRowTargets : Tensor := Tensor.ofList .int64 [.int 1]

theorem fit_validation_split_one_row :
    (Split.Aligned oneRowSamples oneRowTargets ∧ (0 : Float) < 0.5 ∧ (0.5 : Float) < 1) ∧
      (0 ≤ Scalar.truncate (0.5 * Float.ofNat oneRowSamples.length) ∧
          (0 < oneRowSamples.length →
            Scalar.truncate (0.5 * Float.ofNat oneRowSamples.length) < oneRowSamples.length)) ∧
        ∃ xt yt xv yv, (default : BoostedTrees).fit oneRowSamples oneRowTargets 0.5 none none =
            (default : BoostedTrees).fit xt yt 0 (some (xv, yv)) none ∧
          Split.Aligned xt yt ∧ Split.Aligned xv yv ∧
          Split.pairs xt yt = (Split.pairs oneRowSamples oneRowTargets).take (splitPoint oneRowSamples.length 0.5) ∧
          Split.pairs xv yv = (Split.pairs oneRowSamples oneRowTargets).drop (splitPoint oneRowSamples.length 0.5) ∧
          (Split.pairs xt yt = [] ↔
            Scalar.truncate (0.5 * Float.ofNat oneRowSamples.length) = 0 ∨ oneRowSamples.length = 0) :=
  have hal : Split.Aligned oneRowSamples oneRowTargets := ⟨1, [2], [], rfl, rfl, rfl, rfl⟩
  have h0 : (0 : Float) < 0.5 := by decide
  have h1 : (0.5 : Float) < 1 := by decide
  ⟨⟨hal, h0, h1⟩, fit_validation_split default hal none h0 h1⟩

def noRowSamples : Tensor := { dtype := .float64, shape := [0, 2], data := #[] }

def noRowTargets : Tensor := Tensor.ofList .int64 []

/-- Half of one row cuts to zero rows, so fitting on one row with a share of one
half trains on no rows and validates on the one row. -/
theorem fit_one_row_trains_on_none :
    splitPoint oneRowSamples.length 0.5 = 0 ∧
      (default : BoostedTrees).fit oneRowSamples oneRowTargets 0.5 none none =
        (default : BoostedTrees).fit noRowSamples noRowTargets 0 (some (oneRowSamples, oneRowTargets)) none :=
  ⟨by decide, fit_eq_of_slices (by decide) rfl rfl rfl rfl rfl rfl⟩

end BoostedTrees

end ColliderML
