import ColliderML.Proofs.Counting.CutSearch

/-!
# Fixed-width counts

Counts of fixed width split a range into `n` bins between `n + 1` evenly spaced
edges, the last of them the top of the range, and count in each bin the values
that both of its edges hold. Both edges are included, so the counts add up to
the values counted once for every bin that holds them (`Tally.sum_countBetween`),
and a value on an inner edge is counted in the two bins beside it
(`Tally.fixedWidthCounts_counts_inner_edge_twice`). No value is lost: among
edges that are numbers, a value from the first edge to the top lies in some bin
(`Tally.exists_bin_of_between`). The main statement is
`Tally.fixedWidthCounts_closed_bins`.
-/

namespace ColliderML

namespace Tally

theorem countBetween_eq_countP (xs : List Float) (lower upper : Float) :
    countBetween xs lower upper = (xs.countP fun x => lower ≤ x && x ≤ upper : Nat) := by
  rw [countBetween, List.countP_eq_length_filter]

theorem sum_countP_swap {α β : Type} (xs : List α) (bins : List β) (holds : β → α → Bool) :
    (bins.map fun b => xs.countP (holds b)).sum = (xs.map fun v => bins.countP fun b => holds b v).sum := by
  induction xs with
  | nil => simp
  | cons v xs ih =>
      simp only [List.countP_cons, List.map_cons, List.sum_cons, ← ih]
      -- the new value adds one to exactly the bins that hold it
      clear ih
      induction bins with
      | nil => simp
      | cons b bins ihb =>
          simp only [List.map_cons, List.sum_cons, List.countP_cons, ihb]
          omega

theorem sum_countBetween (xs : List Float) (bins : List (Float × Float)) :
    (bins.map fun e => countBetween xs e.1 e.2).sum =
      ((xs.map fun v => (bins.filter fun e => e.1 ≤ v && v ≤ e.2).length).sum : Nat) := by
  simp only [countBetween_eq_countP, ← List.countP_eq_length_filter]
  rw [← sum_countP_swap xs bins fun e x => e.1 ≤ x && x ≤ e.2]
  simp [Nat.cast_list_sum, List.map_map, Function.comp_def]

theorem le_of_not_le {x y : Float} (hx : x.isNaN = false) (hy : y.isNaN = false) (h : ¬ x ≤ y) : y ≤ x := by
  rw [FloatOrder.le_iff_rank_le hx hy] at h
  rw [FloatOrder.le_iff_rank_le hy hx]
  exact le_of_lt (not_le.mp h)

theorem exists_bin_of_between (a : Float) (rest : List Float) (hrest : rest ≠ [])
    (hnum : ∀ e ∈ rest, e.isNaN = false) {v : Float} (hlo : a ≤ v) (hhi : v ≤ (a :: rest).getLast (by simp)) :
    ∃ e ∈ (a :: rest).zip rest, e.1 ≤ v ∧ v ≤ e.2 := by
  induction rest generalizing a with
  | nil => exact absurd rfl hrest
  | cons b rest ih =>
      by_cases hb : v ≤ b
      · exact ⟨(a, b), by simp, hlo, hb⟩
      · -- the value lies above `b`, so the bins from `b` on hold it
        have hbv : b ≤ v :=
          le_of_not_le (FloatOrder.isNaN_eq_false_of_le hlo).2 (hnum b List.mem_cons_self) hb
        have hne : rest ≠ [] := by
          rintro rfl
          exact hb (by simpa using hhi)
        obtain ⟨e, he, hev⟩ := ih b hne (fun e he => hnum e (List.mem_cons_of_mem _ he)) hbv
          (by simpa [List.getLast_cons hne] using hhi)
        exact ⟨e, by simp [List.zip_cons_cons, he], hev⟩

theorem evenPoints_getLast? {lo hi : Float} {n : Nat} (hn : 0 < n) {edges : List Float}
    (h : evenPoints lo hi ((n : Int) + 1) = .ok edges) : edges.length = n + 1 ∧ edges.getLast? = some hi := by
  have hcount : ((n : Int) + 1).toNat = n + 1 := by omega
  simp only [evenPoints, if_neg (show ¬ ((n : Int) + 1 < 0) by omega), hcount, Nat.add_sub_cancel,
    if_neg (Nat.pos_iff_ne_zero.mp hn), Except.ok.injEq] at h
  subst h
  refine ⟨by simp, ?_⟩
  rw [List.range_succ, List.map_append, List.getLast?_append]
  simp

/-- Fixed-width counts over `n ≥ 1` bins: the edges are `n + 1` evenly spaced
points ending on the top of the range; bin `i` lies between edges `i` and
`i + 1` and counts the values that both edges hold; the counts add up to the
values counted once for every bin that holds them; and, when the edges are
numbers, every number from the first edge to the top lies in some bin. -/
theorem fixedWidthCounts_closed_bins (values : Tensor) (lo hi : Float) (n : Nat) (edges : List Float)
    (hn : 0 < n) (hedges : evenPoints lo hi ((n : Int) + 1) = .ok edges) :
    (edges.zip edges.tail).length = n ∧ edges.getLast? = some hi ∧
      fixedWidthCounts values lo hi n = .ok (Tensor.ofList .int32 ((edges.zip edges.tail).map fun e =>
        .int (countBetween (values.toList.map Scalar.toFloat) e.1 e.2))) ∧
      ((edges.zip edges.tail).map fun e => countBetween (values.toList.map Scalar.toFloat) e.1 e.2).sum =
        (((values.toList.map Scalar.toFloat).map fun v =>
          ((edges.zip edges.tail).filter fun e => e.1 ≤ v && v ≤ e.2).length).sum : Nat) ∧
      ((∀ e ∈ edges, e.isNaN = false) → ∀ v, edges.headD 0 ≤ v → v ≤ hi →
        ∃ e ∈ edges.zip edges.tail, e.1 ≤ v ∧ v ≤ e.2) := by
  obtain ⟨hlen, hlast⟩ := evenPoints_getLast? hn hedges
  refine ⟨by simp [hlen], hlast, CutSearch.fixedWidthCounts_eq_ok values hedges (by omega),
    sum_countBetween _ _, fun hnum v hlo hhi => ?_⟩
  -- the edges are a first edge followed by at least one more
  obtain ⟨a, rest, rfl⟩ := List.exists_cons_of_ne_nil (List.ne_nil_of_length_pos (by omega : 0 < edges.length))
  have hrest : rest ≠ [] := List.ne_nil_of_length_pos (by simp at hlen; omega)
  have htop : (a :: rest).getLast (by simp) = hi := by
    rw [List.getLast?_eq_some_getLast (by simp)] at hlast
    exact Option.some.inj hlast
  exact exists_bin_of_between a rest hrest (fun e he => hnum e (List.mem_cons_of_mem _ he)) hlo (htop ▸ hhi)

def oneHalf : Tensor := Tensor.ofList .float64 [.real 0.5]

theorem fixedWidthCounts_closed_bins_oneHalf :
    0 < 2 ∧ evenPoints 0 1 ((2 : Nat) + 1) = .ok [0, 0.5, 1] ∧
      (([0, 0.5, 1] : List Float).zip [0.5, 1]).length = 2 ∧ ([0, 0.5, 1] : List Float).getLast? = some 1 ∧
      fixedWidthCounts oneHalf 0 1 (2 : Nat) = .ok (Tensor.ofList .int32 ((([0, 0.5, 1] : List Float).zip [0.5, 1]).map
        fun e => .int (countBetween (oneHalf.toList.map Scalar.toFloat) e.1 e.2))) ∧
      ((([0, 0.5, 1] : List Float).zip [0.5, 1]).map fun e =>
          countBetween (oneHalf.toList.map Scalar.toFloat) e.1 e.2).sum =
        (((oneHalf.toList.map Scalar.toFloat).map fun v =>
          ((([0, 0.5, 1] : List Float).zip [0.5, 1]).filter fun e => e.1 ≤ v && v ≤ e.2).length).sum : Nat) ∧
      ((∀ e ∈ ([0, 0.5, 1] : List Float), e.isNaN = false) → ∀ v, ([0, 0.5, 1] : List Float).headD 0 ≤ v → v ≤ 1 →
        ∃ e ∈ ([0, 0.5, 1] : List Float).zip [0.5, 1], e.1 ≤ v ∧ v ≤ e.2) := by
  have hedges : evenPoints 0 1 ((2 : Nat) + 1) = .ok [0, 0.5, 1] := rfl
  exact ⟨by decide, hedges, fixedWidthCounts_closed_bins oneHalf 0 1 2 [0, 0.5, 1] (by decide) hedges⟩

/-- One half on the range from zero to one in two bins lies on the inner edge
and is counted in both bins: one value in range, and counts that add up to two. -/
theorem fixedWidthCounts_counts_inner_edge_twice :
    (fixedWidthCounts oneHalf 0 1 2).toOption.map (fun t => t.toList.map Scalar.toInt) = some [1, 1] := by
  decide +kernel

end Tally

end ColliderML
