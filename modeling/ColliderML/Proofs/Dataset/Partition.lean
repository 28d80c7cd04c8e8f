import Mathlib
import ColliderML.Proofs.Dataset.Reload

/-!
# Splitting a dataset partitions its rows

A split shuffles the positions of the rows by the seed's generator, which
swaps positions and so permutes them (`Pcg.perm_permutation`), and cuts the
shuffled order in two: the slices on either side of one cut cover every
position once (`sliceRange_append_cut`). Samples and targets are taken at the
same positions, so every pair of a sample row and its target lands in exactly
one half (`Split.halves_partition`); a three-way split cuts the training half
again.

The shares are checked only after the seed is stored: a refused split keeps
the dataset's mark and parts but not its seed (`Dataset.split_partitions_rows`).
A negative seed fails in the generator, and a three-way split whose training
and validation shares are both zero divides by zero.
-/

namespace ColliderML

theorem sliceRange_append_cut (n : Nat) (k : Int) :
    sliceRange n none (some k) ++ sliceRange n (some k) none = List.range n := by
  -- both slices clip the cut to the same position `c` of the axis
  set c := (if k < 0 then max 0 (k + n) else min k n).toNat with hc
  have hcn : c ≤ n := by omega
  have h1 : sliceRange n none (some k) = List.range c := by simp [sliceRange, hc]
  have h2 : sliceRange n (some k) none = (List.range (n - c)).map (· + c) := by simp [sliceRange, hc]
  rw [h1, h2, ← Nat.add_sub_cancel' hcn, List.range_add]
  simp [Nat.add_comm]

namespace Pcg

theorem perm_swapIfInBounds {α : Type} (xs : Array α) (i j : Nat) :
    (xs.swapIfInBounds i j).toList.Perm xs.toList := by
  rw [Array.swapIfInBounds_def]
  split
  · next hi =>
    split
    · next hj => exact (Array.swap_perm hi hj).toList
    · exact .refl _
  · exact .refl _

theorem perm_permutation (g : Pcg) (n : Nat) : (g.permutation n).1.toList.Perm (List.range n) := by
  unfold permutation
  -- each step swaps two entries of the array, or leaves it
  refine List.foldlRecOn (motive := fun (acc : Array Nat × Pcg) => acc.1.toList.Perm (List.range n))
    _ _ (by simp) ?_
  intro acc hacc i _
  split
  · exact hacc
  · exact (perm_swapIfInBounds _ _ _).trans hacc

end Pcg

namespace Tensor

@[simp] theorem length_rows {t : Tensor} {n : Nat} {rest : Shape} (ht : t.shape = n :: rest) :
    t.rows.length = n := by
  simp [rows, ht]

theorem getD_rows {t : Tensor} {n : Nat} {rest : Shape} (ht : t.shape = n :: rest) {p : Nat} (hp : p < n) :
    t.rows.getD p default =
      { dtype := t.dtype, shape := rest, data := t.data.extract (p * rest.size) (p * rest.size + rest.size) } := by
  simp [rows, ht, hp]

theorem foldl_append_blocks (B : Nat → Array Scalar) (ps : List Nat) (acc : Array Scalar) :
    ps.foldl (fun acc i => acc ++ B i) acc = acc ++ ps.foldl (fun acc i => acc ++ B i) #[] := by
  induction ps generalizing acc with
  | nil => simp
  | cons p ps ih =>
    rw [List.foldl_cons, List.foldl_cons, ih, ih (#[] ++ B p)]
    simp [Array.append_assoc]

theorem extract_foldl_blocks (B : Nat → Array Scalar) {k : Nat} {ps : List Nat}
    (hB : ∀ p ∈ ps, (B p).size = k) :
    (ps.foldl (fun acc i => acc ++ B i) #[]).size = ps.length * k ∧
      ∀ j (hj : j < ps.length), (ps.foldl (fun acc i => acc ++ B i) #[]).extract (j * k) (j * k + k) = B ps[j] := by
  induction ps with
  | nil => simp
  | cons p ps ih =>
    obtain ⟨hsize, hget⟩ := ih (fun q hq => hB q (by simp [hq]))
    have hp : (B p).size = k := hB p (by simp)
    rw [List.foldl_cons, foldl_append_blocks, Array.empty_append]
    refine ⟨by simp [hsize, hp, Nat.add_mul, Nat.add_comm], ?_⟩
    intro j hj
    cases j with
    | zero =>
      rw [Nat.zero_mul, Nat.zero_add, ← hp, Array.extract_append_left, Array.extract_eq_self_of_le (le_refl _)]
      rfl
    | succ j =>
      -- past the first block, the stretch lies in the blocks after it
      have hempty : (B p).extract ((j + 1) * k) ((j + 1) * k + k) = #[] := by
        apply Array.eq_empty_of_size_eq_zero
        simp [hp, Nat.add_mul]
      rw [Array.extract_append, hp, hempty, Array.empty_append,
        show (j + 1) * k - k = j * k by rw [Nat.add_mul, Nat.one_mul, Nat.add_sub_cancel],
        show (j + 1) * k + k - k = j * k + k by rw [Nat.add_sub_cancel, Nat.add_mul, Nat.one_mul]]
      exact hget j (by simpa using hj)

theorem rows_takeRows {t : Tensor} {n : Nat} {rest : Shape} (ht : t.shape = n :: rest) (hf : t.Filled)
    {ps : List Nat} (hps : ∀ p ∈ ps, p < n) :
    ∃ r, t.takeRows ps = .ok r ∧ r.dtype = t.dtype ∧ r.shape = ps.length :: rest ∧ r.Filled ∧
      r.rows = ps.map (fun p => t.rows.getD p default) := by
  set B := fun i => t.data.extract (i * rest.size) (i * rest.size + rest.size) with hBdef
  -- every row asked for lies inside the array, so each block has a row's size
  have hB : ∀ p ∈ ps, (B p).size = rest.size := by
    intro p hp
    have hlt := hps p hp
    have hdata : t.data.size = n * rest.size := by rw [hf, ht, Shape.size_cons]
    have hle : p * rest.size + rest.size ≤ n * rest.size := by nlinarith
    simp [hBdef, hdata, Nat.min_eq_left hle]
  obtain ⟨hsize, hget⟩ := extract_foldl_blocks B hB
  have hfind : ps.find? (· ≥ n) = none := by
    rw [List.find?_eq_none]
    intro p hp
    simpa using hps p hp
  refine ⟨{ dtype := t.dtype, shape := ps.length :: rest, data := ps.foldl (fun acc i => acc ++ B i) #[] },
    ?_, rfl, rfl, ?_, ?_⟩
  · simp [takeRows, ndim, length, ht, hfind, hBdef]
  · simp [Filled, hsize]
  · apply List.ext_getElem
    · simp [rows]
    · intro j h1 h2
      have hj : j < ps.length := by simpa [rows] using h1
      rw [List.getElem_map, getD_rows ht (hps _ (List.getElem_mem hj))]
      simp only [rows, List.getElem_map, List.getElem_range]
      rw [hget j hj]

end Tensor

namespace Split

theorem map_getD_range (a : Array Nat) : (List.range a.size).map (fun i => a.getD i 0) = a.toList := by
  apply List.ext_getElem
  · simp
  · intro i h1 h2
    simp [Array.getD_eq_getD_getElem?, Array.getElem?_eq_getElem (by simpa using h1)]

theorem perm_positions (seed n : Nat) (share : Float) :
    ((positions seed n share).1 ++ (positions seed n share).2).Perm (List.range n) := by
  set order := ((Pcg.ofSeed seed).permutation n).1 with horder
  have hperm : order.toList.Perm (List.range n) := Pcg.perm_permutation (Pcg.ofSeed seed) n
  have hread := map_getD_range order
  rw [show order.size = n by simpa using hperm.length_eq] at hread
  simp only [positions]
  rw [← List.map_append, sliceRange_append_cut, ← horder, hread]
  exact hperm

def Aligned (S T : Tensor) : Prop :=
  ∃ n rs rt, S.shape = n :: rs ∧ T.shape = n :: rt ∧ S.Filled ∧ T.Filled

def pairs (S T : Tensor) : List (Tensor × Tensor) := S.rows.zip T.rows

theorem map_range_pairs {S T : Tensor} {n : Nat} {rs rt : Shape} (hS : S.shape = n :: rs)
    (hT : T.shape = n :: rt) :
    (List.range n).map (fun p => (S.rows.getD p default, T.rows.getD p default)) = pairs S T := by
  apply List.ext_getElem
  · simp [pairs, Tensor.length_rows hS, Tensor.length_rows hT]
  · intro j h1 h2
    have hj : j < n := by simpa using h1
    have hjS : j < S.rows.length := by rw [Tensor.length_rows hS]; exact hj
    have hjT : j < T.rows.length := by rw [Tensor.length_rows hT]; exact hj
    simp [pairs, List.getElem_zip, List.getElem?_eq_getElem hjS, List.getElem?_eq_getElem hjT]

theorem pairs_takeRows {S T : Tensor} {n : Nat} {rs rt : Shape} (hS : S.shape = n :: rs)
    (hT : T.shape = n :: rt) (hSf : S.Filled) (hTf : T.Filled) {ps : List Nat} (hps : ∀ p ∈ ps, p < n) :
    ∃ S' T', S.takeRows ps = .ok S' ∧ T.takeRows ps = .ok T' ∧ Aligned S' T' ∧
      pairs S' T' = ps.map (fun p => (S.rows.getD p default, T.rows.getD p default)) := by
  obtain ⟨S', hS', -, hS'shape, hS'f, hS'rows⟩ := Tensor.rows_takeRows hS hSf hps
  obtain ⟨T', hT', -, hT'shape, hT'f, hT'rows⟩ := Tensor.rows_takeRows hT hTf hps
  refine ⟨S', T', hS', hT', ⟨_, _, _, hS'shape, hT'shape, hS'f, hT'f⟩, ?_⟩
  rw [pairs, hS'rows, hT'rows, List.zip_map']

theorem halves_partition {seed : Int} (hseed : 0 ≤ seed) {S T : Tensor} (h : Aligned S T) (share : Float) :
    ∃ H, halves seed S T share = .ok H ∧ Aligned H.trainSamples H.trainTargets ∧
      Aligned H.testSamples H.testTargets ∧
      (pairs H.trainSamples H.trainTargets ++ pairs H.testSamples H.testTargets).Perm (pairs S T) := by
  obtain ⟨n, rs, rt, hS, hT, hSf, hTf⟩ := h
  have hperm := perm_positions seed.toNat n share
  have hlen : S.length = n := by simp [Tensor.length, hS]
  -- every position drawn is a row of both arrays
  have hin : ∀ p ∈ (positions seed.toNat n share).1 ++ (positions seed.toNat n share).2, p < n :=
    fun p hp => List.mem_range.mp (hperm.subset hp)
  obtain ⟨A, B, hA, hB, hAB, hpA⟩ :=
    pairs_takeRows hS hT hSf hTf (fun p hp => hin p (List.mem_append_left _ hp))
  obtain ⟨C, D, hC, hD, hCD, hpC⟩ :=
    pairs_takeRows hS hT hSf hTf (fun p hp => hin p (List.mem_append_right _ hp))
  refine ⟨⟨A, C, B, D⟩, ?_, hAB, hCD, ?_⟩
  · have hneg : ¬seed < 0 := by omega
    have hndim : (S.ndim == 0) = false := by simp [Tensor.ndim, hS]
    simp [halves, hneg, hndim, hlen, hA, hB, hC, hD]
  · rw [hpA, hpC, ← List.map_append, ← map_range_pairs hS hT]
    exact hperm.map _

end Split

namespace Store

@[simp] theorem layout_settle (st : Store) (b : Bool) : (st.settle b).layout = st.layout := by
  unfold settle
  -- each branch sets samples, targets or the read mark only
  rcases h : st.saved with _ | f <;> simp only [h] <;> (repeat' split) <;> rfl

@[simp] theorem layout_reload (st : Store) (b : Bool) : (st.reload b).layout = st.layout := by
  unfold reload
  split
  · dsimp only
    split_ifs <;> rfl
  · rfl

@[simp] theorem layout_takeSamples (st : Store) : st.takeSamples.1.layout = st.layout := by
  unfold takeSamples
  split <;> (try split) <;> simp

@[simp] theorem layout_takeTargets (st : Store) : st.takeTargets.1.layout = st.layout := by
  unfold takeTargets
  split <;> simp

/-- The rows a split reads: the samples read out as one array `X`, and the
targets read out after them, `T`, in rows. -/
def ReadsOutRows (st : Store) (X T : Tensor) : Prop :=
  ∃ S, st.takeSamples.2 = .ok S ∧ S.toArray = .ok X ∧ st.takeSamples.1.takeTargets.2 = .ok T ∧
    Split.Aligned X T

end Store

namespace Dataset

def SameParts (a b : Dataset) : Prop :=
  a.beenSplit = b.beenSplit ∧ a.train = b.train ∧ a.test = b.test ∧ a.val = b.val

def FailsKeepingParts (before : Dataset) (e : Error) (r : Dataset × Outcome Unit) : Prop :=
  r.2 = .error e ∧ SameParts r.1 before

/-- Parts that hold, between them, each pair of a sample row of `X` and its
target in `T` exactly once, each part in rows. -/
def HoldsOnce (parts : List (Tensor × Tensor)) (X T : Tensor) : Prop :=
  (parts.flatMap (fun p => Split.pairs p.1 p.2)).Perm (Split.pairs X T) ∧ ∀ p ∈ parts, Split.Aligned p.1 p.2

/-- What a split into training and test parts does to a dataset whose rows are
`X` and `T`, by its shares `tr` and `te` scaled by ten: it stores the seed; a
sum other than ten is refused with a `ValueError`, as is a negative seed; else
the two parts hold every pair of a sample row and its target once, and the
validation part is left as it was. -/
def SplitsInTwo (ds : Dataset) (X T : Tensor) (seed : Int) (tr te : Float) (r : Dataset × Outcome Unit) : Prop :=
  r.1.seed = .int seed ∧
  ((tr + te != 10) = true → FailsKeepingParts ds (.other .badValue "train + test must be 1") r) ∧
  ((tr + te != 10) = false → seed < 0 →
    FailsKeepingParts ds (.other .badValue "expected non-negative integer") r) ∧
  ((tr + te != 10) = false → 0 ≤ seed →
    r.2 = .ok () ∧ r.1.beenSplit = .bool true ∧ r.1.val = ds.val ∧
    ∃ A B C D, r.1.train = some (ds.partOf A B) ∧ r.1.test = some (ds.partOf C D) ∧
      HoldsOnce [(A, B), (C, D)] X T)

/-- What a split into training, validation and test parts does to a dataset
whose rows are `X` and `T`, by its shares `tr`, `te` and `va` scaled by ten,
`trW` and `vaW` saying whether the training and validation shares are whole:
it stores the seed; a sum other than ten is refused with a `ValueError`, as is
a negative seed; training and validation shares of zero divide by zero; else
the three parts hold every pair of a sample row and its target once. -/
def SplitsInThree (ds : Dataset) (X T : Tensor) (seed : Int) (tr te va : Float) (trW vaW : Bool)
    (r : Dataset × Outcome Unit) : Prop :=
  r.1.seed = .int seed ∧
  ((tr + te + va != 10) = true → ∃ msg, FailsKeepingParts ds (.other .badValue msg) r) ∧
  ((tr + te + va != 10) = false → seed < 0 →
    FailsKeepingParts ds (.other .badValue "expected non-negative integer") r) ∧
  ((tr + te + va != 10) = false → 0 ≤ seed → (tr + va == 0) = true →
    FailsKeepingParts ds (if trW && vaW then .zeroDivision
      else .other .divisionByZero "float division by zero") r) ∧
  ((tr + te + va != 10) = false → 0 ≤ seed → (tr + va == 0) = false →
    r.2 = .ok () ∧ r.1.beenSplit = .bool true ∧
    ∃ A B C D E F, r.1.train = some (ds.partOf A B) ∧ r.1.val = some (ds.partOf E F) ∧
      r.1.test = some (ds.partOf C D) ∧ HoldsOnce [(A, B), (E, F), (C, D)] X T)

theorem partOf_congr {ds ds' : Dataset} (h : ds.store.layout = ds'.store.layout) : ds.partOf = ds'.partOf := by
  unfold partOf
  rw [h]

theorem take_rows {ds : Dataset} {S : Holding} {T : Tensor} (hS : ds.store.takeSamples.2 = .ok S)
    (hT : ds.store.takeSamples.1.takeTargets.2 = .ok T) :
    ds.takeSamples = ({ ds with store := ds.store.takeSamples.1 }, .ok S) ∧
      ({ ds with store := ds.store.takeSamples.1 } : Dataset).takeTargets =
        ({ ds with store := ds.store.takeSamples.1.takeTargets.1 }, .ok T) ∧
      ds.store.takeSamples.1.takeTargets.1.layout = ds.store.layout :=
  ⟨Prod.ext rfl hS, Prod.ext rfl hT, by simp⟩

section Shares

variable (ds : Dataset) {X T : Tensor} (hrows : ds.store.ReadsOutRows X T) (seed : Int)
  {train test : Datum} {tr te : Float} {trW teW : Bool}
  (htr : tenfold train = .ok (tr, trW)) (hte : tenfold test = .ok (te, teW))
include hrows htr hte

theorem split_without_val : SplitsInTwo ds X T seed tr te (ds.split train test none seed) := by
  obtain ⟨S, hS, hX, hT, halign⟩ := hrows
  obtain ⟨e1, e2, hlayout⟩ := take_rows hS hT
  unfold SplitsInTwo split
  simp only [htr, hte, Outcome.ok_bind, Outcome.pure_eq_ok, e1, e2, Option.isNone_none, Bool.true_and]
  refine ⟨by split <;> rfl, fun hrej => ?_, fun hacc hneg => ?_, fun hacc hseed => ?_⟩
  · simp only [hrej, if_true]
    exact ⟨rfl, rfl, rfl, rfl, rfl⟩
  · simp only [hacc, hX, Split.halves, hneg, Bool.false_eq_true, if_false, if_true, Outcome.ok_bind]
    exact ⟨rfl, rfl, rfl, rfl, rfl⟩
  · obtain ⟨H, hH, hA, hC, hperm⟩ := Split.halves_partition hseed halign (te / 10)
    simp only [hacc, hX, hH, Outcome.ok_bind, Bool.false_eq_true, if_false, true_and]
    refine ⟨H.trainSamples, H.trainTargets, H.testSamples, H.testTargets,
      by rw [partOf_congr hlayout], by rw [partOf_congr hlayout], by simpa using hperm, ?_⟩
    simp only [List.mem_cons, List.not_mem_nil, or_false]
    rintro p (rfl | rfl)
    · exact hA
    · exact hC

theorem split_with_val {v : Datum} {va : Float} {vaW : Bool} (hva : tenfold v = .ok (va, vaW)) :
    SplitsInThree ds X T seed tr te va trW vaW (ds.split train test (some v) seed) := by
  obtain ⟨S, hS, hX, hT, halign⟩ := hrows
  obtain ⟨e1, e2, hlayout⟩ := take_rows hS hT
  unfold SplitsInThree split
  simp only [htr, hte, hva, Outcome.ok_bind, Outcome.pure_eq_ok, e1, e2, Option.isNone_some, Bool.false_and,
    Bool.false_eq_true, if_false, hX]
  -- the first shuffle comes before the three-way check, and fails first on a negative seed
  have hfirst : seed < 0 → Split.halves seed X T (te / 10) =
      .error (.other .badValue "expected non-negative integer") := by
    intro hneg
    simp only [Split.halves, hneg, if_true]
    rfl
  refine ⟨?_, fun hrej => ?_, fun _ hneg => ?_, fun hacc hseed hzero => ?_, fun hacc hseed hpos => ?_⟩
  · -- every branch stores the seed
    split
    · rfl
    · split <;> rfl
  · by_cases hseed : 0 ≤ seed
    · obtain ⟨H, hH, -⟩ := Split.halves_partition hseed halign (te / 10)
      simp only [hH, hrej, if_true]
      exact ⟨_, rfl, rfl, rfl, rfl, rfl⟩
    · simp only [hfirst (by omega)]
      exact ⟨_, rfl, rfl, rfl, rfl, rfl⟩
  · simp only [hfirst hneg]
    exact ⟨rfl, rfl, rfl, rfl, rfl⟩
  · obtain ⟨H, hH, -⟩ := Split.halves_partition hseed halign (te / 10)
    simp only [hH, hacc, hzero, Bool.false_eq_true, if_false, if_true]
    exact ⟨rfl, rfl, rfl, rfl, rfl⟩
  · obtain ⟨H, hH, hA, hC, hperm⟩ := Split.halves_partition hseed halign (te / 10)
    obtain ⟨G, hG, hA', hE, hperm'⟩ := Split.halves_partition hseed hA (va / (tr + va))
    simp only [hH, hacc, hpos, hG, Bool.false_eq_true, if_false, true_and]
    refine ⟨G.trainSamples, G.trainTargets, H.testSamples, H.testTargets, G.testSamples, G.testTargets,
      by rw [partOf_congr hlayout], by rw [partOf_congr hlayout], by rw [partOf_congr hlayout], ?_, ?_⟩
    · -- the validation rows come out of the training half, which the test half completes
      simpa [List.append_assoc] using (hperm'.append_right _).trans hperm
    · simp only [List.mem_cons, List.not_mem_nil, or_false]
      rintro p (rfl | rfl | rfl)
      · exact hA'
      · exact hE
      · exact hC

end Shares

/-- Splitting a dataset whose samples and targets read out in rows stores the
seed whatever happens, refuses shares that do not add up with a `ValueError`,
keeping its mark and parts, and otherwise, for a seed the generator takes,
puts every pair of a sample row and its target in exactly one of its parts. -/
theorem split_partitions_rows (ds : Dataset) {X T : Tensor} (hrows : ds.store.ReadsOutRows X T) (seed : Int)
    {train test : Datum} {tr te : Float} {trW teW : Bool}
    (htr : tenfold train = .ok (tr, trW)) (hte : tenfold test = .ok (te, teW)) :
    SplitsInTwo ds X T seed tr te (ds.split train test none seed) ∧
      ∀ (v : Datum) (va : Float) (vaW : Bool), tenfold v = .ok (va, vaW) →
        SplitsInThree ds X T seed tr te va trW vaW (ds.split train test (some v) seed) :=
  ⟨split_without_val ds hrows seed htr hte, fun _ _ _ hva => split_with_val ds hrows seed htr hte hva⟩

/-! ## Two events read

A set of the pseudorapidity of all jets that has read two events with one jet
each, the first with target 1 and the second with target 0, holds two rows of
one feature and two targets.
-/

def twoEventSamples : Tensor := { dtype := .int32, shape := [2, 1], data := #[.int 0, .int 0] }

def twoEventTargets : Tensor := { dtype := .int32, shape := [2], data := #[.int 1, .int 0] }

def twoEvents : Dataset :=
  { store := { layout := .set ⟨[.observable Image.jetEta]⟩, samples := Held.ofArray twoEventSamples,
               targets := Held.ofArray twoEventTargets, beenRead := some false } }

theorem twoEvents_readsOutRows : twoEvents.store.ReadsOutRows twoEventSamples twoEventTargets :=
  ⟨_, rfl, rfl, rfl, ⟨2, [1], [], rfl, rfl, rfl, rfl⟩⟩

theorem split_partitions_rows_twoEvents :
    twoEvents.store.ReadsOutRows twoEventSamples twoEventTargets ∧
      (SplitsInTwo twoEvents twoEventSamples twoEventTargets 1 (0.5 * 10) (0.5 * 10)
          (twoEvents.split (.float 0.5) (.float 0.5) none 1) ∧
        ∀ (v : Datum) (va : Float) (vaW : Bool), tenfold v = .ok (va, vaW) →
          SplitsInThree twoEvents twoEventSamples twoEventTargets 1 (0.5 * 10) (0.5 * 10) va false vaW
            (twoEvents.split (.float 0.5) (.float 0.5) (some v) 1)) :=
  ⟨twoEvents_readsOutRows, split_partitions_rows twoEvents twoEvents_readsOutRows 1 rfl rfl⟩

/-- Shares of one half and four tenths are refused, yet the dataset, which had
no seed, keeps the refused split's seed; a split by a negative seed fails,
and so does one whose training and validation shares are both zero. -/
theorem split_refused_stores_seed :
    twoEvents.seed = .none ∧
      FailsKeepingParts twoEvents (.other .badValue "train + test must be 1")
        (twoEvents.split (.float 0.5) (.float 0.4) none 1) ∧
      (twoEvents.split (.float 0.5) (.float 0.4) none 1).1.seed = .int 1 ∧
      (twoEvents.split (.float 0.5) (.float 0.5) none (-1)).2 =
        .error (.other .badValue "expected non-negative integer") ∧
      (twoEvents.split (.int 0) (.int 1) (some (.int 0)) 1).2 = .error .zeroDivision := by
  have half : tenfold (.float 0.5) = .ok (0.5 * 10, false) := rfl
  have fourTenths : tenfold (.float 0.4) = .ok (0.4 * 10, false) := rfl
  have zeroShare : tenfold (.int 0) = .ok (Float.ofInt 0, true) := rfl
  have wholeShare : tenfold (.int 1) = .ok (Float.ofInt 10, true) := rfl
  obtain ⟨hseed, hrej, -, -⟩ := split_without_val twoEvents twoEvents_readsOutRows 1 half fourTenths
  obtain ⟨-, -, hneg, -⟩ := split_without_val twoEvents twoEvents_readsOutRows (-1) half half
  obtain ⟨-, -, -, hzero, -⟩ :=
    split_with_val twoEvents twoEvents_readsOutRows 1 zeroShare wholeShare zeroShare
  exact ⟨rfl, hrej (by decide), hseed, (hneg (by decide) (by decide)).1,
    (hzero (by decide) (by decide) (by decide)).1⟩

end Dataset

end ColliderML
