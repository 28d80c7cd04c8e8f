import ColliderML.Proofs.Tensor.Entries
import ColliderML.Proofs.Outcome
import ColliderML.Counting.Model

/-!
# Parallel and sequential cuts agree when predicting

Without labels a cut-and-count classifier fits nothing and predicts by its cuts
alone. In parallel it multiplies every cut's marks, one for an event the cut
keeps and zero otherwise; in sequence it ands, cut after cut, the prediction so
far with the cut's mask of one and minus one, a mark counting as kept when it is
not negative. On a matrix of features each cut reads its own column, and both
arrangements end on one for the rows that every cut keeps and zero elsewhere,
so they give the same one-hot rows (`CountingModel.predict_topologies_agree`).

Every array on the way is built position by position over one axis of the rows,
so each step is an equation between arrays built from functions
(`Tensor.build`); two builds agree when their functions agree on the positions
of the shape (`Tensor.build_congr`).
-/

namespace ColliderML

namespace Tensor

theorem holds_of_mem_positions {s : Shape} {pos : List Nat} (h : pos ∈ s.positions) : s.Holds pos := by
  induction s generalizing pos with
  | nil =>
      rw [List.mem_singleton.mp h]
      exact .nil
  | cons n rest ih =>
      simp only [Shape.positions, List.mem_flatMap, List.mem_range, List.mem_map] at h
      obtain ⟨i, hi, qs, hqs, rfl⟩ := h
      exact .cons hi (ih hqs)

theorem build_congr {d : DType} {s : Shape} {f g : List Nat → Scalar}
    (h : ∀ pos, s.Holds pos → f pos = g pos) : build d s f = build d s g := by
  simp only [build, mk.injEq, true_and, and_true]
  rw [List.map_inj_left.mpr fun pos hpos => h pos (holds_of_mem_positions hpos)]

theorem map_build (d d' : DType) (s : Shape) (f : List Nat → Scalar) (g : Scalar → Scalar) :
    (build d s f).map d' g = build d' s (fun pos => g (f pos)) := by
  simp [map, build, List.map_map, Function.comp_def]

theorem fill_eq_build (d : DType) (s : Shape) (v : Scalar) : fill d s v = build d s (fun _ => v) := by
  simp [fill, build, List.map_const', Shape.length_positions]

theorem astype_build_self (d : DType) (s : Shape) (f : List Nat → Scalar) :
    (build d s f).astype d = build d s f := by
  simp [astype, build]

theorem zipWith_build {d da db : DType} {s : Shape} {f : Scalar → Scalar → Scalar}
    {g h : List Nat → Scalar} :
    zipWith d f (build da s g) (build db s h) = .ok (build d s fun pos => f (g pos) (h pos)) := by
  simp only [zipWith, shape_build, broadcastShape_self]
  congr 1
  -- each operand is read at the position itself, where it holds its function's value
  exact build_congr fun pos hpos => by rw [broadcastSource_self hpos, get_build hpos, get_build hpos]

end Tensor

open Tensor

namespace CountingModel

def keepsRow (c : FeatureCut) (x : Tensor) (i : Nat) (pos : List Nat) : Bool :=
  c.keeping.keeps c.lower c.upper (x.get [pos.headD 0, i]).toFloat

/-- The verdict of cuts on `r` rows of features, cut `c` reading column `col c`:
one for a row that every cut keeps, zero for the others. -/
def verdicts (cuts : List FeatureCut) (x : Tensor) (col : FeatureCut → Nat) (r : Nat) : Tensor :=
  build .float32 [r] fun pos => .real (if cuts.all (fun c => keepsRow c x (col c) pos) then 1 else 0)

theorem column_eq {c : FeatureCut} {x : Tensor} {r k i : Nat} (hx : x.shape = [r, k]) (hi : i < k)
    (hc : c.featureIndex = .ok i) :
    c.column x = .ok (build x.dtype [r] fun pos => x.get [pos.headD 0, i]) := by
  have hpicks : picks [.all, .pos (i : Int)] x.shape 0 =
      .ok [Pick.keep (List.range r).toArray, Pick.fixed i] := by
    have hlow : ¬(i : Int) < -(k : Int) := by omega
    have hhigh : ¬(k : Int) ≤ i := by omega
    simp [picks, hx, hlow, hhigh]
  have hindex := index_of_picks (t := x) (by simp [ndim, hx, List.filter_cons, Index.consumes]) hpicks
  simp only [FeatureCut.column, hc, ndim, hx, Outcome.ok_bind]
  have hcols : List.replicate ([r, k].length - 1) Index.all ++ [Index.pos (i : Int)] =
      [.all, .pos (i : Int)] := rfl
  have hshape : pickShape [Pick.keep (List.range r).toArray, Pick.fixed i] = [r] := by
    simp [pickShape]
  rw [if_neg (by simp), hcols, hindex, hshape]
  congr 1
  -- the picks read row `j` of the column at position `j` of the rows
  refine build_congr fun pos hpos => ?_
  obtain ⟨j, hj, rfl⟩ : ∃ j, j < r ∧ pos = [j] := by
    cases hpos with
    | cons hj hnil => cases hnil; exact ⟨_, hj, rfl⟩
  simp [pickSource, hj]

theorem mark_build (c : FeatureCut) (d : DType) (s : Shape) (f : List Nat → Scalar) (kept other : Float) :
    c.mark (build d s f) kept other =
      build .float64 s fun pos => .real (if c.keeping.keeps c.lower c.upper (f pos).toFloat then kept else other) :=
  map_build _ _ _ _ _

/-! ## In parallel: marks of one and zero multiply -/

theorem mul_marks {s : Shape} (p q : List Nat → Bool) :
    Tensor.arith .mul (build .float64 s fun pos => .real (if p pos then 1 else 0))
        (build .float64 s fun pos => .real (if q pos then 1 else 0)) =
      .ok (build .float64 s fun pos => .real (if p pos && q pos then 1 else 0)) := by
  rw [Tensor.arith, dtype_build, dtype_build, zipWith_build]
  congr 2
  funext pos
  -- doubles multiply, and products of ones and zeros are exact
  show Scalar.real _ = Scalar.real _
  congr 1
  cases p pos <;> cases q pos <;> decide

theorem foldlM_mul_marks {s : Shape} (p : List Nat → Bool) (qs : List (List Nat → Bool)) :
    (qs.map fun q => build .float64 s fun pos => .real (if q pos then 1 else 0)).foldlM (Tensor.arith .mul)
        (build .float64 s fun pos => .real (if p pos then 1 else 0)) =
      .ok (build .float64 s fun pos => .real (if p pos && qs.all (fun q => q pos) then 1 else 0)) := by
  induction qs generalizing p with
  | nil => simp
  | cons q qs ih =>
      rw [List.map_cons, List.foldlM_cons, mul_marks, Outcome.ok_bind, ih]
      simp [Bool.and_assoc]

theorem parallelCut_none {m : CountingModel} {x : Tensor} {r k i : Nat} (hx : x.shape = [r, k])
    {c : FeatureCut} (hi : i < k) (hc : c.featureIndex = .ok i) :
    m.parallelCut x none c = .ok (c, build .float64 [r] fun pos => .real (if keepsRow c x i pos then 1 else 0)) := by
  simp only [parallelCut, column_eq hx hi hc, Outcome.ok_bind, mark_build, Outcome.pure_eq_ok]
  rfl

theorem foldl_parallelStep_none (m : CountingModel) (x : Tensor) (marks : FeatureCut → Tensor)
    (cuts done : List FeatureCut) (preds : List Tensor)
    (h : ∀ c ∈ cuts, m.parallelCut x none c = .ok (c, marks c)) :
    cuts.foldl (m.parallelStep x none) (done, .ok preds) = (done ++ cuts, .ok (preds ++ cuts.map marks)) := by
  induction cuts generalizing done preds with
  | nil => simp
  | cons c cuts ih =>
      have hstep : m.parallelStep x none (done, .ok preds) c = (done ++ [c], .ok (preds ++ [marks c])) := by
        simp [parallelStep, h c List.mem_cons_self]
      rw [List.foldl_cons, hstep, ih _ _ fun c' hc' => h c' (List.mem_cons_of_mem _ hc')]
      simp

section Rows

variable {x : Tensor} {r k : Nat} {col : FeatureCut → Nat}

theorem parallel_none (m : CountingModel) (hx : x.shape = [r, k]) (hcuts : m.cuts ≠ [])
    (hcol : ∀ c ∈ m.cuts, c.featureIndex = .ok (col c) ∧ col c < k) :
    (m.parallel x none).2 =
      .ok (build .float64 [r] fun pos => .real (if m.cuts.all (fun c => keepsRow c x (col c) pos) then 1 else 0)) := by
  obtain ⟨c, rest, hm⟩ := List.exists_cons_of_ne_nil hcuts
  have hfold := foldl_parallelStep_none m x
    (fun c => build .float64 [r] fun pos => .real (if keepsRow c x (col c) pos then 1 else 0)) m.cuts [] []
    (fun c hc => parallelCut_none hx (hcol c hc).2 (hcol c hc).1)
  simp only [parallel, hfold, List.nil_append, Outcome.ok_bind]
  simp only [hm, List.map_cons, product]
  -- the marks after the first multiply into it, one cut at a time
  have hrest := foldlM_mul_marks (s := [r]) (fun pos => keepsRow c x (col c) pos)
    (rest.map fun c pos => keepsRow c x (col c) pos)
  rw [List.map_map] at hrest
  rw [Function.comp_def] at hrest
  rw [hrest]
  simp [List.all_map, Function.comp_def]

theorem sequenceCut_none (m : CountingModel) (hxd : x.dtype = .float32) (hx : x.shape = [r, k])
    {c : FeatureCut} {i : Nat} (hi : i < k) (hc : c.featureIndex = .ok i) (d : DType)
    (p : List Nat → Bool) (mask : Tensor) :
    m.sequenceCut x none (build d [r] fun pos => .real (if p pos then 1 else 0)) mask c =
      .ok (c, build .float32 [r] (fun pos => .real (if p pos && keepsRow c x i pos then 1 else 0)),
        c.mark (build .float32 [r] fun pos => x.get [pos.headD 0, i]) 1 (-1)) := by
  have hndim : ((build DType.float32 [r] fun pos => x.get [pos.headD 0, i]).ndim == 2) = false := rfl
  simp only [sequenceCut, column_eq hx hi hc, Outcome.ok_bind, hxd, FeatureCut.applyCut, astype_build_self,
    hndim, Bool.false_eq_true, if_false, Outcome.pure_eq_ok, mark_build, zipWith_build]
  congr 3
  refine build_congr fun pos _ => ?_
  congr 1
  -- a prediction of one stays one where the cut's mark, one or minus one, is not negative
  show _ = if (p pos && c.keeping.keeps c.lower c.upper (x.get [pos.headD 0, i]).toFloat) = true then 1 else 0
  generalize p pos = a
  generalize c.keeping.keeps c.lower c.upper (x.get [pos.headD 0, i]).toFloat = b
  cases a <;> cases b <;> decide

theorem foldl_sequenceStep_none (m : CountingModel) (hxd : x.dtype = .float32) (hx : x.shape = [r, k])
    (cuts done : List FeatureCut) (hcol : ∀ c ∈ cuts, c.featureIndex = .ok (col c) ∧ col c < k)
    (d : DType) (p : List Nat → Bool) (mask : Tensor) :
    ∃ d' mask', cuts.foldl (m.sequenceStep x none)
        (done, .ok (build d [r] fun pos => .real (if p pos then 1 else 0), mask)) =
      (done ++ cuts, .ok (build d' [r] (fun pos =>
        .real (if p pos && cuts.all (fun c => keepsRow c x (col c) pos) then 1 else 0)), mask')) := by
  induction cuts generalizing done d p mask with
  | nil => exact ⟨d, mask, by simp⟩
  | cons c cuts ih =>
      have hc := hcol c List.mem_cons_self
      have hstep : m.sequenceStep x none (done, .ok (build d [r] fun pos => .real (if p pos then 1 else 0), mask)) c =
          (done ++ [c], .ok (build .float32 [r] (fun pos => .real (if p pos && keepsRow c x (col c) pos then 1 else 0)),
            c.mark (build .float32 [r] fun pos => x.get [pos.headD 0, col c]) 1 (-1))) := by
        simp [sequenceStep, sequenceCut_none m hxd hx hc.2 hc.1]
      obtain ⟨d', mask', hrest⟩ := ih (done ++ [c]) (fun c' hc' => hcol c' (List.mem_cons_of_mem _ hc')) .float32
        (fun pos => p pos && keepsRow c x (col c) pos) _
      refine ⟨d', mask', ?_⟩
      rw [List.foldl_cons, hstep, hrest]
      simp [Bool.and_assoc]

theorem sequence_none (m : CountingModel) (hxd : x.dtype = .float32) (hx : x.shape = [r, k])
    (hcol : ∀ c ∈ m.cuts, c.featureIndex = .ok (col c) ∧ col c < k) :
    ∃ d, (m.sequence x none).2 =
      .ok (build d [r] fun pos => .real (if m.cuts.all (fun c => keepsRow c x (col c) pos) then 1 else 0)) := by
  -- the pass starts from a prediction of ones, the verdict of no cut
  have hstart : Tensor.fill .float64 [x.length] (.real 1) =
      build .float64 [r] fun pos => .real (if (fun _ => true) pos then 1 else 0) := by
    rw [fill_eq_build, Tensor.length, hx]
    rfl
  obtain ⟨d, mask, hfold⟩ := foldl_sequenceStep_none m hxd hx m.cuts [] hcol .float64 (fun _ => true)
    (build .float64 [r] fun pos => .real (if (fun _ => true) pos then 1 else 0))
  have hndim : (x.ndim == 0) = false := by simp [ndim, hx]
  refine ⟨d, ?_⟩
  simp only [sequence, hndim, Bool.false_eq_true, if_false]
  rw [hstart, hfold]
  simp

theorem oneHot_squeeze_build (d d' : DType) (s : Shape) (f : List Nat → Scalar) :
    oneHot (squeeze (build d s f)) = oneHot (squeeze (build d' s f)) := rfl

/-- Without labels a cut-and-count classifier predicts the same one-hot rows in
parallel as in sequence: on a single-precision matrix of features, with every
cut reading a column of it, both give the one-hot rows of the verdict of all
the cuts. -/
theorem predict_topologies_agree (m : CountingModel) (x : Tensor) (r k : Nat) (col : FeatureCut → Nat)
    (hcuts : m.cuts ≠ []) (hxd : x.dtype = .float32) (hx : x.shape = [r, k])
    (hcol : ∀ c ∈ m.cuts, c.featureIndex = .ok (col c) ∧ col c < k) :
    ({ m with topology := .str "parallel" }.predict x none).2 = .ok (oneHot (squeeze (verdicts m.cuts x col r))) ∧
    ({ m with topology := .str "sequential" }.predict x none).2 =
      .ok (oneHot (squeeze (verdicts m.cuts x col r))) := by
  have hpar := parallel_none { m with topology := .str "parallel" } hx hcuts hcol
  obtain ⟨d, hseq⟩ := sequence_none { m with topology := .str "sequential" } hxd hx hcol
  constructor
  · simp only [predict]
    rw [hpar]
    simp only [Outcome.ok_bind, Outcome.pure_eq_ok, verdicts]
    rw [oneHot_squeeze_build]
  · simp only [predict]
    rw [hseq]
    simp only [Outcome.ok_bind, Outcome.pure_eq_ok, verdicts]
    rw [oneHot_squeeze_build]

end Rows

/-- Two cuts: the first keeps a first feature at or below one half, the second
keeps a second feature at or outside one and two. -/
def twoCuts : CountingModel :=
  { name := .str "cut_and_count", observables := .int 2, bins := .int 50, topology := .str "parallel",
    cuts := [{ name := .str "observable_1", feature := .int 0, lower := 0.5 },
      { name := .str "observable_2", feature := .int 1, lower := 1, upper := 2, way := 3 }] }

def twoEvents : Tensor :=
  { dtype := .float32, shape := [2, 2], data := #[.real 0.25, .real 3, .real 1, .real 1.5] }

def featureColumn (c : FeatureCut) : Nat := (c.featureIndex.toOption.getD 0).toNat

theorem predict_topologies_agree_twoCuts :
    twoCuts.cuts ≠ [] ∧ twoEvents.dtype = .float32 ∧ twoEvents.shape = [2, 2] ∧
      (∀ c ∈ twoCuts.cuts, c.featureIndex = .ok (featureColumn c) ∧ featureColumn c < 2) ∧
      ({ twoCuts with topology := .str "parallel" }.predict twoEvents none).2 =
        .ok (oneHot (squeeze (verdicts twoCuts.cuts twoEvents featureColumn 2))) ∧
      ({ twoCuts with topology := .str "sequential" }.predict twoEvents none).2 =
        .ok (oneHot (squeeze (verdicts twoCuts.cuts twoEvents featureColumn 2))) := by
  have hcol : ∀ c ∈ twoCuts.cuts, c.featureIndex = .ok (featureColumn c) ∧ featureColumn c < 2 := by
    intro c hc
    simp only [twoCuts, List.mem_cons, List.not_mem_nil, or_false] at hc
    rcases hc with rfl | rfl <;> exact ⟨rfl, by decide⟩
  exact ⟨by simp [twoCuts], rfl, rfl, hcol,
    predict_topologies_agree twoCuts twoEvents 2 2 featureColumn (by simp [twoCuts]) rfl rfl hcol⟩

/-- The first event passes both cuts, the second fails the first. -/
example : (verdicts twoCuts.cuts twoEvents featureColumn 2).toList.map Scalar.toFloat = [1, 0] := by
  decide

end CountingModel

end ColliderML
