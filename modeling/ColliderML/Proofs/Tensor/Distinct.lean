import ColliderML.Proofs.Metric.Thresholds
import ColliderML.Tensor.Tally

/-!
# Distinct values of an array

The distinct values of an array are its values sorted ascending, with every
value dropped that equals the one kept before it. On doubles without NaN,
equality is an equivalence and the order is total, so what is kept ascends
strictly (`Tally.pairwise_lt_dropRepeats`), stands for every value
(`Tally.exists_beq_mem_dropRepeats`), and, ascending strictly, holds at most one
value equal to any given one (`Tally.countP_beq_le_one`): every value of the
array is met exactly once (`Tally.distinct_ascending_each_once`). Equality is
that of doubles, so a negative and a positive zero are one value.
-/

namespace ColliderML

namespace Tally

open FloatDifference

theorem dropRepeats_sublist (l : List Float) : (dropRepeats l).Sublist l := by
  fun_induction dropRepeats l with
  | case1 => exact .slnil
  | case2 x => exact .refl _
  | case3 x y rest _ ih => exact ih.trans ((List.sublist_cons_self y rest).cons_cons x)
  | case4 x y rest _ ih => exact ih.cons_cons x

theorem pairwise_lt_dropRepeats {l : List Float} (hsorted : l.Pairwise (· ≤ ·)) :
    (dropRepeats l).Pairwise (· < ·) := by
  fun_induction dropRepeats l with
  | case1 => exact .nil
  | case2 x => exact List.pairwise_singleton _ x
  | case3 x y rest _ ih => exact ih (hsorted.sublist ((List.sublist_cons_self y rest).cons_cons x))
  | case4 x y rest hyx ih =>
    obtain ⟨hx, hrest⟩ := List.pairwise_cons.1 hsorted
    -- the next value kept differs from `x` and does not lie below it
    have hxy : x < y :=
      lt_of_le_of_beq_eq_false (hx y (List.mem_cons_self ..)) (beq_eq_false_comm (by simpa using hyx))
    refine List.pairwise_cons.2 ⟨fun z hz => ?_, ih hrest⟩
    rcases List.mem_cons.1 ((dropRepeats_sublist _).subset hz) with rfl | hz
    · exact hxy
    · exact FloatOrder.lt_of_lt_of_le hxy ((List.pairwise_cons.1 hrest).1 z hz)

theorem exists_beq_mem_dropRepeats {l : List Float} (hnan : ∀ x ∈ l, x.isNaN = false) :
    ∀ x ∈ l, ∃ z ∈ dropRepeats l, (z == x) = true := by
  fun_induction dropRepeats l with
  | case1 => simp
  | case2 x => exact fun w hw => ⟨w, hw, beq_self (hnan w hw)⟩
  | case3 x y rest hyx ih =>
    have ih' := ih fun a ha => hnan a ((List.sublist_cons_self y rest).cons_cons x |>.subset ha)
    intro w hw
    rcases List.mem_cons.1 hw with rfl | hw
    · exact ih' w (List.mem_cons_self ..)
    rcases List.mem_cons.1 hw with rfl | hw
    · -- a dropped repeat equals `x`, and what stands for `x` stands for it
      obtain ⟨z, hz, hzx⟩ := ih' x (List.mem_cons_self ..)
      exact ⟨z, hz, beq_trans hzx (beq_symm hyx)⟩
    · exact ih' w (List.mem_cons_of_mem _ hw)
  | case4 x y rest _ ih =>
    intro w hw
    rcases List.mem_cons.1 hw with rfl | hw
    · exact ⟨w, List.mem_cons_self .., beq_self (hnan w (List.mem_cons_self ..))⟩
    · obtain ⟨z, hz, hzw⟩ := ih (fun a ha => hnan a (List.mem_cons_of_mem _ ha)) w hw
      exact ⟨z, List.mem_cons_of_mem _ hz, hzw⟩

theorem countP_beq_le_one {l : List Float} (h : l.Pairwise (· < ·)) (x : Float) :
    l.countP (· == x) ≤ 1 := by
  induction l with
  | nil => simp
  | cons a l ih =>
    obtain ⟨ha, hl⟩ := List.pairwise_cons.1 h
    by_cases hax : (a == x) = true
    · -- everything after `a` lies above it, so none equals `x`
      have hzero : l.countP (· == x) = 0 := by
        rw [List.countP_eq_zero]
        intro z hz hzx
        have hza := beq_eq_false_of_lt (ha z hz)
        rw [beq_trans hzx (beq_symm hax)] at hza
        cases hza
      simp [hax, hzero]
    · simp [hax, ih hl]

theorem dropRepeats_eq_changed (x : Float) (rest : List Float) :
    dropRepeats (x :: rest) = x :: ((rest.zip (x :: rest)).filter (fun e => e.1 != e.2)).map Prod.fst := by
  induction rest generalizing x with
  | nil => simp [dropRepeats]
  | cons y rest ih =>
    by_cases hyx : (y == x) = true
    · -- `y` is dropped, and what follows it is compared with `y` as with `x`
      have hsame : ((rest.zip (y :: rest)).filter (fun e => e.1 != e.2)).map Prod.fst =
          ((rest.zip (x :: rest)).filter (fun e => e.1 != e.2)).map Prod.fst := by
        cases rest with
        | nil => rfl
        | cons z rest =>
          have hz : (z == y) = (z == x) := Bool.eq_iff_iff.mpr
            ⟨fun h => beq_trans h hyx, fun h => beq_trans h (beq_symm hyx)⟩
          simp only [List.zip_cons_cons, List.filter_cons, bne, hz]
          split <;> rfl
      rw [dropRepeats, if_pos hyx, ih x, List.zip_cons_cons,
        List.filter_cons_of_neg (by simp [bne, hyx]), hsame]
    · rw [dropRepeats, if_neg hyx, ih y, List.zip_cons_cons, List.filter_cons_of_pos (by simp [bne, hyx])]
      rfl

private theorem mapM_eq_some_map {α β : Type} {f : α → Option β} {g : α → β} :
    ∀ {l : List α}, (∀ a ∈ l, f a = some (g a)) → l.mapM f = some (l.map g)
  | [], _ => rfl
  | a :: l, h => by
    rw [List.mapM_cons, h a List.mem_cons_self, mapM_eq_some_map fun b hb => h b (List.mem_cons_of_mem a hb)]
    rfl

theorem mapM_changes (x : Float) (rest : List Float) :
    (0 :: changes (x :: rest)).mapM ((x :: rest)[·]?) =
      some (x :: ((rest.zip (x :: rest)).filter (fun e => e.1 != e.2)).map Prod.fst) := by
  set pairs := rest.zip (x :: rest)
  -- the value after a pair's position is the pair's first value
  have hat : ∀ e ∈ pairs.zipIdx.filter (fun e => e.1.1 != e.1.2), (x :: rest)[e.2 + 1]? = some e.1.1 := by
    intro e he
    exact (List.getElem?_zip_eq_some.mp (List.mem_zipIdx_iff_getElem?.mp (List.mem_filter.mp he).1)).1
  have hfst : (pairs.zipIdx.filter (fun e => e.1.1 != e.1.2)).map Prod.fst =
      pairs.filter (fun e => e.1 != e.2) := by
    calc (pairs.zipIdx.filter (fun e => e.1.1 != e.1.2)).map Prod.fst
        = (pairs.zipIdx.map Prod.fst).filter (fun e => e.1 != e.2) := by rw [List.filter_map]; rfl
      _ = pairs.filter (fun e => e.1 != e.2) := by rw [List.zipIdx_map_fst]
  have hvalues : ((pairs.zipIdx.filter (fun e => e.1.1 != e.1.2)).map (·.2 + 1)).mapM ((x :: rest)[·]?) =
      some ((pairs.filter (fun e => e.1 != e.2)).map Prod.fst) := by
    rw [List.mapM_map]
    refine (mapM_eq_some_map hat).trans ?_
    rw [← hfst, List.map_map]
    rfl
  simp only [changes, List.tail_cons, List.mapM_cons, List.getElem?_cons_zero]
  rw [hvalues]
  rfl

theorem distinct_eq (t : Tensor) :
    distinct t = if t.toList.map Scalar.toFloat = [] then Tensor.ofList .int64 [.int 0]
      else Tensor.ofList .float64 ((dropRepeats (sortFloats (t.toList.map Scalar.toFloat))).map Scalar.real) := by
  unfold distinct
  rcases hs : sortFloats (t.toList.map Scalar.toFloat) with _ | ⟨x, rest⟩
  · have hnil : t.toList.map Scalar.toFloat = [] := List.Perm.eq_nil ((List.mergeSort_perm _ _).symm.trans
      (by rw [← hs]; rfl))
    simp [hnil]
  · have hne : t.toList.map Scalar.toFloat ≠ [] := by
      intro hnil
      simp [sortFloats, hnil] at hs
    simp only [mapM_changes, hne, if_false, dropRepeats_eq_changed]

theorem distinct_of_ne_nil {t : Tensor} (hne : t.toList.map Scalar.toFloat ≠ []) :
    distinct t =
      Tensor.ofList .float64 ((dropRepeats (sortFloats (t.toList.map Scalar.toFloat))).map Scalar.real) := by
  rw [distinct_eq, if_neg hne]

/-- The distinct values of an array without NaN: one axis of values that
ascend strictly, are values of the array, and hold every value of the array
exactly once. -/
theorem distinct_ascending_each_once {t : Tensor} (hne : t.toList ≠ [])
    (hnan : ∀ s ∈ t.toList, s.toFloat.isNaN = false) :
    (distinct t).shape = [(distinct t).toList.length] ∧
      ((distinct t).toList.map Scalar.toFloat).Pairwise (· < ·) ∧
      (∀ s ∈ t.toList, ((distinct t).toList.map Scalar.toFloat).countP (· == s.toFloat) = 1) ∧
      ∀ y ∈ (distinct t).toList.map Scalar.toFloat, y ∈ t.toList.map Scalar.toFloat := by
  set values := t.toList.map Scalar.toFloat with hvalues
  have hvnan : ∀ x ∈ values, x.isNaN = false := by
    intro x hx
    obtain ⟨s, hs, rfl⟩ := List.mem_map.1 hx
    exact hnan s hs
  have hperm : (sortFloats values).Perm values := List.mergeSort_perm _ _
  have hsorted : (sortFloats values).Pairwise (· ≤ ·) :=
    List.pairwise_reverse.1 (Metric.pairwise_reverse_sortFloats hvnan)
  have hdistinct : distinct t = Tensor.ofList .float64 ((dropRepeats (sortFloats values)).map Scalar.real) :=
    distinct_of_ne_nil (by simpa [hvalues] using hne)
  have hout : (distinct t).toList.map Scalar.toFloat = dropRepeats (sortFloats values) := by
    rw [hdistinct]
    show (((dropRepeats (sortFloats values)).map Scalar.real).toArray.toList).map Scalar.toFloat = _
    simp [Function.comp_def, Scalar.toFloat]
  have hstrict := pairwise_lt_dropRepeats hsorted
  refine ⟨?_, hout ▸ hstrict, fun s hs => ?_, fun y hy => ?_⟩
  · rw [hdistinct]
    simp [Tensor.ofList, Tensor.toList]
  · rw [hout]
    obtain ⟨z, hz, hzs⟩ := exists_beq_mem_dropRepeats (fun x hx => hvnan x (hperm.subset hx))
      s.toFloat (hperm.symm.subset (List.mem_map_of_mem hs))
    have hpos : 0 < (dropRepeats (sortFloats values)).countP (· == s.toFloat) :=
      List.countP_pos_iff.2 ⟨z, hz, hzs⟩
    have hle := countP_beq_le_one hstrict s.toFloat
    omega
  · rw [hout] at hy
    exact hperm.subset ((dropRepeats_sublist _).subset hy)

def repeatedValues : Tensor := Tensor.ofList .int64 [.int 3, .int 1, .int 2, .int 3, .int 1]

theorem distinct_ascending_each_once_repeated :
    (repeatedValues.toList ≠ [] ∧ ∀ s ∈ repeatedValues.toList, s.toFloat.isNaN = false) ∧
      (distinct repeatedValues).shape = [(distinct repeatedValues).toList.length] ∧
      ((distinct repeatedValues).toList.map Scalar.toFloat).Pairwise (· < ·) ∧
      (∀ s ∈ repeatedValues.toList,
        ((distinct repeatedValues).toList.map Scalar.toFloat).countP (· == s.toFloat) = 1) ∧
      ∀ y ∈ (distinct repeatedValues).toList.map Scalar.toFloat,
        y ∈ repeatedValues.toList.map Scalar.toFloat :=
  have hne : repeatedValues.toList ≠ [] := by simp [repeatedValues, Tensor.toList, Tensor.ofList]
  have hnan : ∀ s ∈ repeatedValues.toList, s.toFloat.isNaN = false := by decide
  ⟨⟨hne, hnan⟩, distinct_ascending_each_once hne hnan⟩

end Tally

end ColliderML
