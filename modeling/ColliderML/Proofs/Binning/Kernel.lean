import Mathlib
import ColliderML.Proofs.Outcome

/-!
# Binning in any arithmetic

Histograms and bin centres, as images compute them, written once for an
arithmetic given as its operations (`Binning.Arith`): comparisons, the
operations a bin's position and centre need, a missing value and the whole
part of a value. Floats are one such arithmetic and exact rationals another,
so one statement says what the floating-point code does and what the same
code would do with exact arithmetic.

A histogram of points holds in each cell the total weight of the points whose
cell it is, summed in order (`Binning.fill_eq`), and every point in both
axes has exactly one cell, inside the histogram (`Binning.cellOf_lt`,
`Binning.sum_length_filter_cellOf`). When comparisons keep the order laws
(`Binning.Lawful`), rising edges put a value at or above edge `k` and below
edge `k + 1` at the centre of bin `k`, and a value outside the edges, or
missing, at the missing value (`Binning.centerOf_of_bin`).
-/

namespace ColliderML

namespace Binning

structure Arith (α : Type) where
  le : α → α → Bool
  lt : α → α → Bool
  beq : α → α → Bool
  add : α → α → α
  sub : α → α → α
  div : α → α → α
  ofNat : Nat → α
  zero : α
  nan : α
  isNaN : α → Bool
  trunc : α → Nat

structure Axis (α : Type) where
  lo : α
  hi : α
  count : Nat

structure Point (α : Type) where
  x : α
  y : α
  weight : α

variable {α : Type} (A : Arith α)

namespace Axis

def step (a : Axis α) : α := A.div (A.sub a.hi a.lo) (A.ofNat a.count)

def width (a : Axis α) : Outcome α :=
  if a.count = 0 then .error .zeroDivision else .ok (a.step A)

theorem width_of_pos {a : Axis α} (h : 0 < a.count) : a.width A = .ok (a.step A) := by
  simp [width, Nat.pos_iff_ne_zero.mp h]

def holds (a : Axis α) (v : α) : Bool := A.le a.lo v && A.lt v a.hi

def bin (a : Axis α) (w v : α) : Nat := min (A.trunc (A.div (A.sub v a.lo) w)) (a.count - 1)

def binOf (a : Axis α) (w v : α) : Outcome Nat :=
  if A.beq w A.zero then .error .zeroDivision else .ok (a.bin A w v)

theorem bin_lt {a : Axis α} (h : 0 < a.count) (w v : α) : a.bin A w v < a.count := by
  unfold bin
  omega

end Axis

def empty (xa ya : Axis α) : Array (Array α) := Array.replicate xa.count (Array.replicate ya.count A.zero)

def add (xa ya : Axis α) (wx wy : α) (hist : Array (Array α)) (p : Point α) : Outcome (Array (Array α)) :=
  if xa.holds A p.x && ya.holds A p.y then do
    let i ← xa.binOf A wx p.x
    let j ← ya.binOf A wy p.y
    pure (hist.modify i (fun row => row.modify j (A.add · p.weight)))
  else .ok hist

def fill (xa ya : Axis α) (points : List (Point α)) : Outcome (List (List α)) := do
  let wx ← xa.width A
  let wy ← ya.width A
  let hist ← points.foldlM (add A xa ya wx wy) (empty A xa ya)
  pure (hist.toList.map Array.toList)

section Table

variable (xa ya : Axis α) (wx wy : α)

def cellOf (p : Point α) : Option (Nat × Nat) :=
  if xa.holds A p.x && ya.holds A p.y then some (xa.bin A wx p.x, ya.bin A wy p.y) else none

def cellTotal (points : List (Point α)) (i j : Nat) : α :=
  (points.filter (fun p => cellOf A xa ya wx wy p == some (i, j))).foldl (fun s p => A.add s p.weight) A.zero

def table (points : List (Point α)) : Array (Array α) :=
  Array.ofFn fun (i : Fin xa.count) => Array.ofFn fun (j : Fin ya.count) => cellTotal A xa ya wx wy points i j

theorem cellTotal_append_of_ne {points : List (Point α)} {p : Point α} {i j : Nat}
    (h : cellOf A xa ya wx wy p ≠ some (i, j)) :
    cellTotal A xa ya wx wy (points ++ [p]) i j = cellTotal A xa ya wx wy points i j := by
  simp [cellTotal, List.filter_append, h]

theorem cellTotal_append_of_eq {points : List (Point α)} {p : Point α} {i j : Nat}
    (h : cellOf A xa ya wx wy p = some (i, j)) :
    cellTotal A xa ya wx wy (points ++ [p]) i j = A.add (cellTotal A xa ya wx wy points i j) p.weight := by
  simp [cellTotal, List.filter_append, h]

theorem empty_eq_table : empty A xa ya = table A xa ya wx wy [] := by
  simp only [empty, table, cellTotal, List.filter_nil, List.foldl_nil]
  apply Array.ext
  · simp
  · intro i hi hi'
    simp only [Array.getElem_replicate, Array.getElem_ofFn]
    apply Array.ext
    · simp
    · intro j hj hj'
      simp

variable {A xa ya wx wy} in
theorem add_table (hwx : A.beq wx A.zero = false) (hwy : A.beq wy A.zero = false)
    (points : List (Point α)) (p : Point α) :
    add A xa ya wx wy (table A xa ya wx wy points) p = .ok (table A xa ya wx wy (points ++ [p])) := by
  unfold add
  by_cases hin : (xa.holds A p.x && ya.holds A p.y) = true
  · -- the point adds its weight to its cell and to no other
    have hcell : cellOf A xa ya wx wy p = some (xa.bin A wx p.x, ya.bin A wy p.y) := by
      simp [cellOf, hin]
    rw [if_pos hin]
    simp only [Axis.binOf, hwx, hwy, Bool.false_eq_true, if_false, Outcome.ok_bind]
    congr 1
    apply Array.ext
    · simp [table]
    · intro i hi hi'
      simp only [table, Array.getElem_modify, Array.getElem_ofFn]
      apply Array.ext
      · split <;> simp
      · intro j hj hj'
        by_cases hbi : xa.bin A wx p.x = i
        · by_cases hbj : ya.bin A wy p.y = j
          · subst hbi hbj
            simp [Array.getElem_modify, cellTotal_append_of_eq A xa ya wx wy hcell]
          · have hne : cellOf A xa ya wx wy p ≠ some (i, j) := by simp [hcell, hbj]
            simp [hbi, hbj, Array.getElem_modify, cellTotal_append_of_ne A xa ya wx wy hne]
        · have hne : cellOf A xa ya wx wy p ≠ some (i, j) := by simp [hcell, hbi]
          simp [hbi, cellTotal_append_of_ne A xa ya wx wy hne]
  · -- a point outside the axes changes nothing
    have hsame : ∀ i j, cellTotal A xa ya wx wy (points ++ [p]) i j = cellTotal A xa ya wx wy points i j :=
      fun i j => cellTotal_append_of_ne A xa ya wx wy (by simp [cellOf, hin])
    rw [if_neg hin]
    simp only [table, hsame]

variable {A xa ya wx wy} in
theorem foldlM_add_table (hwx : A.beq wx A.zero = false) (hwy : A.beq wy A.zero = false) :
    ∀ (more points : List (Point α)),
      more.foldlM (add A xa ya wx wy) (table A xa ya wx wy points) = .ok (table A xa ya wx wy (points ++ more))
  | [], points => by simp
  | p :: more, points => by
    rw [List.foldlM_cons, add_table hwx hwy, Outcome.ok_bind, foldlM_add_table hwx hwy more]
    simp

end Table

variable {A} {xa ya : Axis α}

theorem fill_eq (hx : 0 < xa.count) (hy : 0 < ya.count) (hwx : A.beq (xa.step A) A.zero = false)
    (hwy : A.beq (ya.step A) A.zero = false) (points : List (Point α)) :
    fill A xa ya points = .ok (List.ofFn fun (i : Fin xa.count) => List.ofFn fun (j : Fin ya.count) =>
      cellTotal A xa ya (xa.step A) (ya.step A) points i j) := by
  rw [fill, Axis.width_of_pos A hx, Axis.width_of_pos A hy]
  simp only [Outcome.ok_bind]
  rw [empty_eq_table A xa ya (xa.step A) (ya.step A), foldlM_add_table hwx hwy]
  simp [table, Array.toList_ofFn, List.map_ofFn, Function.comp_def]

section Cells

variable {wx wy : α}

theorem cellOf_eq_some {p : Point α} {i j : Nat} (h : cellOf A xa ya wx wy p = some (i, j)) :
    (xa.holds A p.x && ya.holds A p.y) = true ∧ i = xa.bin A wx p.x ∧ j = ya.bin A wy p.y := by
  unfold cellOf at h
  split at h
  · next hin => cases h; exact ⟨hin, rfl, rfl⟩
  · cases h

theorem cellOf_lt (hx : 0 < xa.count) (hy : 0 < ya.count) {p : Point α} {i j : Nat}
    (h : cellOf A xa ya wx wy p = some (i, j)) : i < xa.count ∧ j < ya.count := by
  obtain ⟨-, rfl, rfl⟩ := cellOf_eq_some h
  exact ⟨Axis.bin_lt A hx wx p.x, Axis.bin_lt A hy wy p.y⟩

theorem isSome_cellOf {p : Point α} :
    (cellOf A xa ya wx wy p).isSome = (xa.holds A p.x && ya.holds A p.y) := by
  unfold cellOf
  split <;> simp_all

theorem sum_length_filter_cellOf (hx : 0 < xa.count) (hy : 0 < ya.count) (points : List (Point α)) :
    ∑ i : Fin xa.count, ∑ j : Fin ya.count,
        (points.filter (fun p => cellOf A xa ya wx wy p == some ((i : Nat), (j : Nat)))).length =
      (points.filter (fun p => (cellOf A xa ya wx wy p).isSome)).length := by
  induction points with
  | nil => simp
  | cons p rest ih =>
    cases hp : cellOf A xa ya wx wy p with
    | none => simpa [List.filter_cons, hp] using ih
    | some c =>
      -- the point adds one to its own cell, which lies in the histogram
      obtain ⟨a, b⟩ := c
      obtain ⟨ha, hb⟩ := cellOf_lt hx hy hp
      have hcount : ∀ (i : Fin xa.count) (j : Fin ya.count),
          ((p :: rest).filter (fun p => cellOf A xa ya wx wy p == some ((i : Nat), (j : Nat)))).length =
            (rest.filter (fun p => cellOf A xa ya wx wy p == some ((i : Nat), (j : Nat)))).length +
              if (⟨a, ha⟩ : Fin xa.count) = i then (if (⟨b, hb⟩ : Fin ya.count) = j then 1 else 0) else 0 := by
        intro i j
        by_cases hi : (⟨a, ha⟩ : Fin xa.count) = i <;> by_cases hj : (⟨b, hb⟩ : Fin ya.count) = j <;>
          simp_all [Fin.ext_iff]
      simp only [hcount, Finset.sum_add_distrib, ih]
      simp [hp]

end Cells

/-- The order laws that an arithmetic's comparisons keep. -/
structure Lawful (A : Arith α) : Prop where
  isNaN_of_lt {a b : α} : A.lt a b = true → A.isNaN a = false ∧ A.isNaN b = false
  lt_trans {a b c : α} : A.lt a b = true → A.lt b c = true → A.lt a c = true
  lt_of_le_of_lt {a b c : α} : A.le a b = true → A.lt b c = true → A.lt a c = true
  lt_asymm {a b : α} : A.lt a b = true → A.lt b a = false
  beq_of_lt {a b : α} : A.lt a b = true → A.beq b a = false
  isNaN_nan : A.isNaN A.nan = true

namespace Lawful

variable (hA : Lawful A)
include hA

theorem lt_irrefl (a : α) : A.lt a a = false := by
  cases h : A.lt a a
  · rfl
  · simpa [h] using hA.lt_asymm h

theorem not_lt_of_le {a b : α} (h : A.le a b = true) : A.lt b a = false := by
  cases hba : A.lt b a
  · rfl
  · simpa [hA.lt_irrefl a] using hA.lt_of_le_of_lt h hba

theorem lt_of_isNaN_left {a b : α} (h : A.isNaN a = true) : A.lt a b = false := by
  cases hab : A.lt a b
  · rfl
  · simpa [h] using (hA.isNaN_of_lt hab).1

end Lawful

section Centers

variable (A)

def direction (edges : List α) : Int :=
  match edges with
  | [] => 1
  | first :: rest =>
    match rest.dropWhile (A.beq · first) with
    | [] => 1
    | next :: more =>
      let steps := (next :: more).zip more
      if A.lt first next then (if steps.any (fun p => A.lt p.2 p.1) then 0 else 1)
      else if steps.any (fun p => A.lt p.1 p.2) then 0 else -1

def before (x b : α) : Bool := (A.isNaN b && !A.isNaN x) || A.lt x b

def countUpTo (edges : List α) (x : α) : Nat :=
  (edges.takeWhile (fun b => !before A x b)).length

def position (edges : List α) (rising : Bool) (x : α) : Nat :=
  if rising then countUpTo A edges x else edges.length - countUpTo A edges.reverse x

def centers (edges : List α) : List α :=
  (edges.zip edges.tail).map (fun p => A.div (A.add p.1 p.2) (A.ofNat 2))

def centerOf (edges : List α) (rising : Bool) (x : α) : α :=
  let i := position A edges rising x
  if i == 0 || i == edges.length then A.nan
  else (centers A edges).getD (i - 1) A.nan

end Centers

theorem before_eq_false {A : Arith α} {x b : α} (hb : A.isNaN b = false) (hx : A.lt x b = false) : before A x b = false := by
  simp [before, hb, hx]

theorem before_of_lt {A : Arith α} {x b : α} (h : A.lt x b = true) : before A x b = true := by
  simp [before, h]

theorem countUpTo_of_lt_head {A : Arith α} {edges : List α} {x : α} (h0 : 0 < edges.length) (h : A.lt x edges[0] = true) :
    countUpTo A edges x = 0 := by
  rcases edges with _ | ⟨first, rest⟩
  · simp at h0
  · simp only [List.getElem_cons_zero] at h
    simp [countUpTo, before_of_lt h]

theorem countUpTo_of_forall {A : Arith α} {edges : List α} {x : α} (h : ∀ b ∈ edges, before A x b = false) :
    countUpTo A edges x = edges.length := by
  unfold countUpTo
  rw [List.takeWhile_eq_self_iff.mpr (by simpa using h)]


theorem getElem?_centers {A : Arith α} {edges : List α} {k : Nat} (hk : k + 1 < edges.length) :
    (centers A edges)[k]? = some (A.div (A.add edges[k] edges[k + 1]) (A.ofNat 2)) := by
  have hz : (edges.zip edges.tail)[k]? = some (edges[k], edges[k + 1]) := by
    rw [List.getElem?_eq_getElem (by simp; omega)]
    simp [List.getElem_zip, List.getElem_tail]
  simp [centers, List.getElem?_map, hz]

theorem centerOf_of_countUpTo {A : Arith α} {edges : List α} {x : α} {k : Nat} (hk : k + 1 < edges.length)
    (h : countUpTo A edges x = k + 1) :
    centerOf A edges true x = A.div (A.add edges[k] edges[k + 1]) (A.ofNat 2) := by
  have hne : (k + 1 == edges.length) = false := by simp; omega
  simp [centerOf, position, h, hne, getElem?_centers hk]

theorem centerOf_of_countUpTo_eq_nan {A : Arith α} {edges : List α} {x : α}
    (h : countUpTo A edges x = 0 ∨ countUpTo A edges x = edges.length) :
    centerOf A edges true x = A.nan := by
  rcases h with h | h <;> simp [centerOf, position, h]

section CenterLaws

variable (hA : Lawful A) {edges : List α}
include hA

abbrev Rising (A : Arith α) (edges : List α) : Prop := edges.IsChain (fun a b => A.lt a b = true)

theorem Rising.pairwise (h : Rising A edges) : edges.Pairwise (fun a b => A.lt a b = true) := by
  have : IsTrans α (fun a b => A.lt a b = true) := ⟨fun _ _ _ => hA.lt_trans⟩
  exact List.isChain_iff_pairwise.mp h

theorem Rising.lt_of_lt (h : Rising A edges) {i j : Nat} (hij : i < j) (hj : j < edges.length) :
    A.lt edges[i] edges[j] = true :=
  List.pairwise_iff_getElem.mp (h.pairwise hA) i j (by omega) hj hij

theorem Rising.isNaN_eq_false (h : Rising A edges) (h2 : 2 ≤ edges.length) {b : α} (hb : b ∈ edges) :
    A.isNaN b = false := by
  obtain ⟨j, hj, rfl⟩ := List.getElem_of_mem hb
  by_cases hj0 : j = 0
  · subst hj0
    exact (hA.isNaN_of_lt (h.lt_of_lt hA (show 0 < 1 by omega) (by omega))).1
  · exact (hA.isNaN_of_lt (h.lt_of_lt hA (show 0 < j by omega) hj)).2

theorem Rising.not_lt_of_le (h : Rising A edges) {x : α} {j k : Nat} (hjk : j ≤ k) (hk : k < edges.length)
    (hle : A.le edges[k] x = true) : A.lt x edges[j] = false := by
  rcases Nat.lt_or_eq_of_le hjk with hjk | rfl
  · cases hx : A.lt x edges[j]
    · rfl
    · have := hA.lt_trans hx (h.lt_of_lt hA hjk hk)
      rw [hA.not_lt_of_le hle] at this
      cases this
  · exact hA.not_lt_of_le hle

theorem countUpTo_of_bin (hr : Rising A edges) {x : α} {k : Nat} (hk : k + 1 < edges.length)
    (hlo : A.le edges[k] x = true) (hhi : A.lt x edges[k + 1] = true) :
    countUpTo A edges x = k + 1 := by
  have hsplit : edges = edges.take (k + 1) ++ edges[k + 1] :: edges.drop (k + 2) := by
    rw [← List.drop_eq_getElem_cons hk, List.take_append_drop]
  have htaken : ∀ b ∈ edges.take (k + 1), (!before A x b) = true := by
    intro b hb
    obtain ⟨j, hj, rfl⟩ := List.getElem_of_mem hb
    simp only [List.length_take] at hj
    rw [List.getElem_take]
    have hnan := hr.isNaN_eq_false hA (by omega) (List.getElem_mem (show j < edges.length by omega))
    simp [before_eq_false hnan (hr.not_lt_of_le hA (show j ≤ k by omega) (by omega) hlo)]
  unfold countUpTo
  rw [hsplit, List.takeWhile_append_of_pos htaken, List.takeWhile_cons_of_neg (by simp [before_of_lt hhi])]
  simp
  omega

theorem countUpTo_of_last_le (hr : Rising A edges) (h2 : 2 ≤ edges.length) {x : α}
    (h : A.le edges[edges.length - 1] x = true) : countUpTo A edges x = edges.length := by
  apply countUpTo_of_forall
  intro b hb
  obtain ⟨j, hj, rfl⟩ := List.getElem_of_mem hb
  exact before_eq_false (hr.isNaN_eq_false hA h2 hb) (hr.not_lt_of_le hA (by omega) (by omega) h)

theorem countUpTo_of_isNaN {x : α} (hx : A.isNaN x = true) : countUpTo A edges x = edges.length := by
  apply countUpTo_of_forall
  intro b _
  simp [before, hx, hA.lt_of_isNaN_left hx]

theorem Rising.lt_of_mem_zip_tail (h : Rising A edges) {p : α × α} (hp : p ∈ edges.zip edges.tail) :
    A.lt p.1 p.2 = true := by
  obtain ⟨i, hi, rfl⟩ := List.getElem_of_mem hp
  simp only [List.length_zip, List.length_tail] at hi
  simp only [List.getElem_zip, List.getElem_tail]
  exact h.lt_of_lt hA (by omega) (by omega)

theorem direction_of_rising (hr : Rising A edges) (h2 : 2 ≤ edges.length) : direction A edges = 1 := by
  rcases edges with _ | ⟨first, _ | ⟨next, more⟩⟩
  · simp at h2
  · simp at h2
  · have hlt : A.lt first next = true := hr.lt_of_lt hA (i := 0) (j := 1) (by omega) (by simp)
    have hdrop : (next :: more).dropWhile (A.beq · first) = next :: more := by
      simp [hA.beq_of_lt hlt]
    have hsteps : ((next :: more).zip more).any (fun p => A.lt p.2 p.1) = false := by
      rw [List.any_eq_false]
      intro p hp
      have : A.lt p.1 p.2 = true := Rising.lt_of_mem_zip_tail hA (List.isChain_cons.mp hr).2 hp
      simp [hA.lt_asymm this]
    simp [direction, hdrop, hlt, hsteps]

theorem centerOf_of_bin (hr : Rising A edges) {x : α} {k : Nat} (hk : k + 1 < edges.length)
    (hlo : A.le edges[k] x = true) (hhi : A.lt x edges[k + 1] = true) :
    centerOf A edges true x = A.div (A.add edges[k] edges[k + 1]) (A.ofNat 2) :=
  centerOf_of_countUpTo hk (countUpTo_of_bin hA hr hk hlo hhi)

end CenterLaws

end Binning

end ColliderML
