import Mathlib
import ColliderML.Proofs.Tensor.Shape
import ColliderML.Proofs.Image.Binning

/-!
# Samples and targets over a run of reads

A dataset reads batches of events, each with one target, and adds the values
of the events that every cut passes as samples, with as many copies of the
target. Samples and targets are held apart, each either as a list that the
next read replaces or as an array that it joins to.

Targets always come as arrays, so the `j`-th target read out is the target of
the read that added the `j`-th sample (`Dataset.sources`). Samples that are
rows of one array (the features of a set, the pixel grids of a binned image)
do too: the `j`-th row read out holds the row its read added, converted to the
element type of the arrays joined (`Tensor.RowFrom`). The heights and widths
of an image not binned come as a pair, held as a list after a read with cuts,
so that the next read replaces them, and as an array after a read without, so
that the next read stacks the pairs. Either way only the samples of one read
stay in view: the samples and targets of such a dataset agree in number exactly
when no read before the last one that adds samples selects any event
(`readAll_samples_follow_reads`).
-/

namespace ColliderML

/-- A batch of events to read into a dataset, with its target and its cuts. -/
structure Batch where
  events : Events
  target : Datum
  cuts : Option (List Datum)

namespace Holding

def isArray : Holding → Bool
  | .array _ => true
  | .pair _ _ => false

def sources (v : Holding) (target : Datum) : List (Holding × Nat × Datum) :=
  (List.range v.count).map fun i => (v, i, target)

@[simp] theorem length_sources (v : Holding) (target : Datum) : (v.sources target).length = v.count := by
  simp [sources]

theorem getElem?_sources {v w : Holding} {target t : Datum} {i j : Nat}
    (h : (v.sources target)[j]? = some (w, i, t)) : j < v.count ∧ w = v ∧ i = j ∧ t = target := by
  by_cases hj : j < v.count
  · simp only [sources, List.getElem?_map, List.getElem?_range, hj, Option.map_some,
      Option.some.injEq, Prod.mk.injEq] at h
    obtain ⟨rfl, rfl, rfl⟩ := h
    exact ⟨hj, rfl, rfl, rfl⟩
  · simp [sources, hj] at h

end Holding

namespace Layout

/-- Whether the samples are rows of one array: the features of a set, or the
pixel grids of a binned image. -/
def rowSamples : Layout → Bool
  | .set _ => true
  | .image img => img.pixelated

def Settled : Layout → Prop
  | .set _ => True
  | .image img => img.BinnedAsRegistered

end Layout

/-- What a dataset whose samples come in pairs shows of them: the number of
heights in view, and whether the next read replaces them. -/
structure PairView where
  shown : Nat
  replaced : Bool

namespace PairView

/-- What a read of `c.1` samples, given as a list when `c.2`, does to the view:
samples that are replaced give way to the new ones; others are stacked with
them, and the first pair stays in view. -/
def step (p : PairView) (c : Nat × Bool) : PairView :=
  if p.replaced then ⟨c.1, c.2⟩ else ⟨p.shown, false⟩

/-- Stacking pairs needs them to have one shape: a read that does not replace
the samples brings as many as are in view. -/
def Admits (p : PairView) (c : Nat × Bool) : Prop := p.replaced = false → c.1 = p.shown

def Admissible : PairView → List (Nat × Bool) → Prop
  | _, [] => True
  | p, c :: cs => p.Admits c ∧ Admissible (p.step c) cs

theorem shown_foldl {p : PairView} {cs : List (Nat × Bool)} (h : Admissible p cs) :
    (cs.foldl step p).shown = (cs.getLast?.map Prod.fst).getD p.shown := by
  induction cs generalizing p with
  | nil => rfl
  | cons c cs ih =>
    obtain ⟨hfits, hrest⟩ := h
    have hstep : (p.step c).shown = c.1 := by
      unfold step
      split
      · rfl
      · next hr => exact (hfits (by simpa using hr)).symm
    rw [List.foldl_cons, ih hrest, hstep, List.getLast?_cons]
    cases cs.getLast? <;> rfl

theorem shown_foldl_eq_sum_iff {cs : List (Nat × Bool)} (h : Admissible ⟨0, true⟩ cs) :
    (cs.foldl step ⟨0, true⟩).shown = (cs.map Prod.fst).sum ↔ (cs.dropLast.map Prod.fst).sum = 0 := by
  rw [shown_foldl h]
  rcases List.eq_nil_or_concat cs with rfl | ⟨ds, c, rfl⟩
  · simp
  · rw [List.concat_eq_append]
    simp only [List.getLast?_concat, Option.map_some, Option.getD_some, List.map_append,
      List.sum_append, List.dropLast_concat, List.map_cons, List.map_nil, List.sum_cons,
      List.sum_nil]
    omega

end PairView

namespace Tensor

/-- The `j`-th row of `S` holds the `i`-th row of `v`: the rows have one shape,
and every element `v` holds there stands at the same place of `S`, converted
along the way. -/
def RowFrom (S : Tensor) (j : Nat) (v : Tensor) (i : Nat) : Prop :=
  v.shape.tail = S.shape.tail ∧ ∀ p, Shape.Holds S.shape.tail p → ∀ x, v.element? (i :: p) = some x →
    ∃ ds, S.element? (j :: p) = some (Scalar.castThrough ds x)

theorem RowFrom.refl (v : Tensor) (i : Nat) : v.RowFrom i v i :=
  ⟨rfl, fun _ _ _ hx => ⟨[], hx⟩⟩

theorem RowFrom.appendLeft {a b r v : Tensor} {j i k : Nat} (hr : appendAlong 0 a b k = .ok r)
    (hj : j < a.length) (h : a.RowFrom j v i) : r.RowFrom j v i := by
  obtain ⟨-, hshape⟩ := appendAlong_zero_eq_ok hr
  obtain ⟨hv, hentries⟩ := h
  refine ⟨by rw [hv, hshape]; rfl, fun p hp x hx => ?_⟩
  have hp' : Shape.Holds a.shape.tail p := by rwa [hshape] at hp
  obtain ⟨ds, hds⟩ := hentries p hp' x hx
  refine ⟨ds ++ [a.dtype.promote b.dtype], ?_⟩
  rw [element?_appendAlong_zero hr (by omega) hp', if_pos hj, get_of_element? hds,
    Scalar.castThrough_concat]

theorem RowFrom.appendRight {a b r : Tensor} {i k : Nat} (hr : appendAlong 0 a b k = .ok r)
    (hi : i < b.length) : r.RowFrom (a.length + i) b i := by
  obtain ⟨htail, hshape⟩ := appendAlong_zero_eq_ok hr
  refine ⟨by rw [hshape, ← htail]; rfl, fun p hp x hx => ⟨[a.dtype.promote b.dtype], ?_⟩⟩
  have hp' : Shape.Holds a.shape.tail p := by rwa [hshape] at hp
  rw [element?_appendAlong_zero hr (by omega) hp', if_neg (by omega), Nat.add_sub_cancel_left,
    get_of_element? hx]
  rfl

theorem RowFrom.astype {S v : Tensor} {j i : Nat} (d : DType) (h : S.RowFrom j v i) :
    (S.astype d).RowFrom j v i := by
  obtain ⟨hv, hentries⟩ := h
  refine ⟨hv, fun p hp x hx => ?_⟩
  obtain ⟨ds, hds⟩ := hentries p hp x hx
  rw [element?_astype, hds]
  by_cases hd : S.dtype = d
  · exact ⟨ds, by rw [if_pos hd]⟩
  · exact ⟨ds ++ [d], by rw [if_neg hd, Scalar.castThrough_concat]; rfl⟩

end Tensor

namespace Held

/-- Samples held as one array whose `j`-th row holds the row that `src[j]` names. -/
structure RowsFrom (h : Held) (S : Tensor) (src : List (Holding × Nat × Datum)) : Prop where
  value : h.value = .array S
  length : S.length = src.length
  fresh : h.replaced = true → src = []
  rows : ∀ j v i t, src[j]? = some (.array v, i, t) → S.RowFrom j v i

/-- Targets held as one array of integers whose `j`-th element is the target
`src[j]` carries, read as an integer. -/
structure TargetsFrom (h : Held) (T : Tensor) (src : List (Holding × Nat × Datum)) : Prop where
  value : h.value = .array T
  shape : T.shape = [src.length]
  fresh : h.replaced = true → src = []
  int32 : h.replaced = false → T.dtype = .int32
  targets : ∀ j s, src[j]? = some s → ∃ x, targetValue s.2.2 = .ok x ∧ T.element? [j] = some x

/-- Heights and widths, as a pair or stacked pairs, with `p.shown` heights in
view, replaced by the next read as `p.replaced` says. -/
def HoldsPairs (h : Held) (p : PairView) : Prop :=
  h.replaced = p.replaced ∧
    ((∃ hv wv, h.value = .pair hv wv ∧ hv.length = p.shown) ∨
      (∃ T, h.value = .array T ∧ 2 ≤ T.length ∧ T.shape.tail.headD 0 = p.shown ∧ p.replaced = false))

theorem empty_rowsFrom : empty.RowsFrom (Tensor.ofList .float64 []) [] :=
  ⟨rfl, rfl, fun _ => rfl, by simp⟩

theorem empty_targetsFrom : empty.TargetsFrom (Tensor.ofList .float64 []) [] :=
  ⟨rfl, rfl, fun _ => rfl, fun h => Bool.noConfusion h, by simp⟩

theorem emptyPair_holdsPairs : emptyPair.HoldsPairs ⟨0, true⟩ := ⟨rfl, .inl ⟨_, _, rfl, rfl⟩⟩

theorem add_of_replaced {h h' : Held} {fresh : Holding} {l : Bool} (hr : h.replaced = true)
    (hadd : h.add fresh l = .ok h') : h' = { value := fresh, replaced := l } := by
  unfold Held.add at hadd
  rw [if_pos hr] at hadd
  exact (Except.ok.inj hadd).symm

theorem add_array_of_replaced_eq_false {h h' : Held} {H t : Tensor} (hv : h.value = .array H)
    (hr : h.replaced = false) (hadd : h.add (.array t) false = .ok h') :
    ∃ r, Tensor.appendAlong 0 H t 1 = .ok r ∧ h' = ofArray r := by
  unfold Held.add at hadd
  rw [if_neg (by simp [hr]), hv] at hadd
  simp only [Holding.toArray_array, Outcome.ok_bind, Outcome.bind_eq_ok] at hadd
  obtain ⟨r, hjoin, hadd⟩ := hadd
  rw [Tensor.concatAlong_pair] at hjoin
  exact ⟨r, hjoin, (Except.ok.inj hadd).symm⟩

theorem RowsFrom.add {h h' : Held} {S v : Tensor} {src : List (Holding × Nat × Datum)} {target : Datum}
    (hh : h.RowsFrom S src) (hadd : h.add (.array v) false = .ok h') :
    ∃ S', h'.RowsFrom S' (src ++ (Holding.array v).sources target) := by
  cases hr : h.replaced with
  | true =>
    obtain rfl := add_of_replaced hr hadd
    obtain rfl := hh.fresh hr
    refine ⟨v, rfl, by simp [Holding.count], fun h => Bool.noConfusion h, fun j w i t hs => ?_⟩
    obtain ⟨-, ⟨⟩, rfl, -⟩ := Holding.getElem?_sources hs
    exact .refl v _
  | false =>
    obtain ⟨r, hjoin, rfl⟩ := add_array_of_replaced_eq_false hh.value hr hadd
    have hlen := hh.length
    refine ⟨r, rfl, ?_, fun h => Bool.noConfusion h, fun j w i t hs => ?_⟩
    · rw [Tensor.length_eq_of_shape (Tensor.appendAlong_zero_eq_ok hjoin).2, hlen]
      simp [Holding.count]
    · rcases Nat.lt_or_ge j src.length with hj | hj
      · rw [List.getElem?_append_left hj] at hs
        exact (hh.rows j w i t hs).appendLeft hjoin (hlen ▸ hj)
      · rw [List.getElem?_append_right hj] at hs
        obtain ⟨hi, ⟨⟩, rfl, -⟩ := Holding.getElem?_sources hs
        have hrow := Tensor.RowFrom.appendRight hjoin hi
        rwa [hlen, Nat.add_sub_cancel' hj] at hrow

theorem TargetsFrom.add {h h' : Held} {T col : Tensor} {src new : List (Holding × Nat × Datum)}
    {target : Datum} (hh : h.TargetsFrom T src) (hcol : targetColumn target new.length = .ok col)
    (hnew : ∀ s ∈ new, s.2.2 = target) (hadd : h.add (.array col) false = .ok h') :
    ∃ T', h'.TargetsFrom T' (src ++ new) := by
  obtain ⟨hshape, hdtype, hcells⟩ := targetColumn_eq_ok hcol
  have hnewAt : ∀ k s, new[k]? = some s → ∃ x, targetValue s.2.2 = .ok x ∧ col.element? [k] = some x := by
    intro k s hs
    rw [hnew s (List.mem_of_getElem? hs)]
    exact hcells k (List.getElem?_eq_some_iff.mp hs).1
  cases hr : h.replaced with
  | true =>
    obtain rfl := add_of_replaced hr hadd
    obtain rfl := hh.fresh hr
    exact ⟨col, rfl, hshape, fun h => Bool.noConfusion h, fun _ => hdtype, hnewAt⟩
  | false =>
    obtain ⟨r, hjoin, rfl⟩ := add_array_of_replaced_eq_false hh.value hr hadd
    have hT := hh.int32 hr
    have hlen : T.length = src.length := by simp [Tensor.length, hh.shape]
    have hclen : col.length = new.length := by simp [Tensor.length, hshape]
    have htail : Shape.Holds T.shape.tail [] := by rw [hh.shape]; exact .nil
    obtain ⟨-, hrshape⟩ := Tensor.appendAlong_zero_eq_ok hjoin
    refine ⟨r, rfl, by rw [hrshape, hlen, hclen, hh.shape]; simp, fun h => Bool.noConfusion h,
      fun _ => by rw [(Tensor.appendAlong_zero_eq_build hjoin).2, hT, hdtype]; rfl, fun j s hs => ?_⟩
    have hj : j < T.length + col.length := by
      rw [hlen, hclen, ← List.length_append]
      exact (List.getElem?_eq_some_iff.mp hs).1
    rw [Tensor.element?_appendAlong_zero hjoin hj htail, hT, hdtype, DType.promote_self]
    -- the targets held stay first; the column's follow them
    rcases Nat.lt_or_ge j src.length with hj' | hj'
    · rw [List.getElem?_append_left hj'] at hs
      obtain ⟨x, hx, hxj⟩ := hh.targets j s hs
      exact ⟨x, hx, by rw [if_pos (hlen ▸ hj'), Tensor.get_of_element? hxj, cast_targetValue hx]⟩
    · rw [List.getElem?_append_right hj'] at hs
      obtain ⟨x, hx, hxj⟩ := hnewAt _ s hs
      exact ⟨x, hx, by rw [if_neg (by omega), hlen, Tensor.get_of_element? hxj, cast_targetValue hx]⟩

theorem HoldsPairs.add {h h' : Held} {p : PairView} {hv wv : Tensor} {l : Bool}
    (hh : h.HoldsPairs p) (hadd : h.add (.pair hv wv) l = .ok h') :
    p.Admits (hv.length, l) ∧ h'.HoldsPairs (p.step (hv.length, l)) := by
  obtain ⟨hrep, hheld⟩ := hh
  unfold Held.add at hadd
  split at hadd
  · next hr =>
    cases hadd
    refine ⟨fun hf => absurd (hrep.trans hf) (by simp [hr]), ?_⟩
    simp only [PairView.step, ← hrep, hr, if_true]
    exact ⟨rfl, .inl ⟨_, _, rfl, rfl⟩⟩
  · next hr =>
    have hp : p.replaced = false := by rw [← hrep]; simpa using hr
    simp only [Outcome.bind_eq_ok] at hadd
    obtain ⟨before, hbefore, after, hafter, r, hr', hadd⟩ := hadd
    cases hadd
    rw [Tensor.concatAlong_pair] at hr'
    obtain ⟨htail, hshape⟩ := Tensor.appendAlong_zero_eq_ok hr'
    obtain ⟨-, hafter⟩ := Holding.toArray_pair_eq_ok hafter
    rw [hafter, List.tail_cons] at htail
    -- what is in view already decides the shape the new pair must have
    have hview : before.shape.tail.headD 0 = p.shown ∧ 2 ≤ before.length := by
      rcases hheld with ⟨hv0, wv0, hval, hlen⟩ | ⟨T, hval, hT, htail0, -⟩
      · rw [hval] at hbefore
        obtain ⟨-, hb⟩ := Holding.toArray_pair_eq_ok hbefore
        simp [hb, Tensor.length, ← hlen]
      · rw [hval, Holding.toArray_array] at hbefore
        cases hbefore
        exact ⟨htail0, hT⟩
    have hfits : hv.length = p.shown := by
      rw [← hview.1, htail]
      rfl
    refine ⟨fun _ => hfits, ?_⟩
    simp only [PairView.step, hp, Bool.false_eq_true, if_false]
    refine ⟨rfl, .inr ⟨r, rfl, ?_, ?_, rfl⟩⟩
    · rw [Tensor.length_eq_of_shape hshape]
      omega
    · rw [hshape]
      exact hview.1

end Held

namespace Image

theorem valueArrays_eq_ok {img : Image} {vals : ImageValues} (h : img.valueArrays = .ok vals) :
    (∃ t, vals = .grids t) ∧ (img.beenPixelated.isSome && img.beenRead) = true ∨
      (∃ hv wv, vals = .pair hv wv) ∧ (img.beenPixelated.isSome && img.beenRead) = false := by
  unfold valueArrays at h
  split at h
  · next hb =>
    refine .inl ⟨?_, hb⟩
    simp only [Outcome.pure_eq_ok, Outcome.ok_bind] at h
    -- both axes need their edges; the grids come from the events
    split at h
    · split at h
      · rw [Outcome.bind_eq_ok] at h
        obtain ⟨_, -, h⟩ := h
        cases h
        exact ⟨_, rfl⟩
      · cases h
      · cases h
    · cases h
    · cases h
  · next hb =>
    cases h
    exact .inr ⟨⟨_, _, rfl⟩, by simpa using hb⟩

end Image

namespace Dataset

variable {table : AliasTable} {ds : Dataset}

def readBatch (table : AliasTable) (ds : Dataset) (b : Batch) : Dataset × Outcome Unit :=
  ds.read table b.events b.target b.cuts

def readAll (table : AliasTable) : Dataset → List Batch → Dataset
  | ds, [] => ds
  | ds, b :: bs => readAll table (ds.readBatch table b).1 bs

def ReadsCleanly (table : AliasTable) : Dataset → List Batch → Prop
  | _, [] => True
  | ds, b :: bs => (ds.readBatch table b).2 = .ok () ∧ ReadsCleanly table (ds.readBatch table b).1 bs

/-- What a read adds: its values, with whether they come as a list; nothing when
it fails or its image is no longer good. -/
def added (table : AliasTable) (ds : Dataset) (b : Batch) : Option (Holding × Bool) :=
  match b.cuts.mapM (fun cs => cs.mapM (GivenCut.ofDatum table)) with
  | .error _ => none
  | .ok given =>
    match (ds.readValues table b.events given).2 with
    | .ok r => r
    | .error _ => none

def contributions (table : AliasTable) : Dataset → List Batch → List (Holding × Bool)
  | _, [] => []
  | ds, b :: bs => (ds.added table b).toList ++ contributions table (ds.readBatch table b).1 bs

/-- Where each sample of a run comes from: the values a read added, the row
among them, and the target of that read, in read order. -/
def sources (table : AliasTable) : Dataset → List Batch → List (Holding × Nat × Datum)
  | _, [] => []
  | ds, b :: bs =>
    (ds.added table b).toList.flatMap (·.1.sources b.target) ++ sources table (ds.readBatch table b).1 bs

theorem length_sources_eq_sum (ds : Dataset) (bs : List Batch) :
    (sources table ds bs).length = ((contributions table ds bs).map (·.1.count)).sum := by
  induction bs generalizing ds with
  | nil => rfl
  | cons b bs ih =>
    simp only [sources, contributions, List.length_append, List.map_append, List.sum_append, ih]
    cases ds.added table b <;> simp

def Aligned (ds : Dataset) : Prop :=
  ∃ n, ds.takeSamples.2.map Holding.count = .ok n ∧ ds.takeTargets.2.map Tensor.length = .ok n

instance decidableReadsCleanly (table : AliasTable) :
    (ds : Dataset) → (bs : List Batch) → Decidable (ReadsCleanly table ds bs)
  | _, [] => isTrue trivial
  | ds, b :: bs =>
    have : Decidable ((ds.readBatch table b).2 = .ok ()) :=
      decidable_of_iff _ Outcome.isOk_iff_eq_ok_unit
    have := decidableReadsCleanly table (ds.readBatch table b).1 bs
    inferInstanceAs (Decidable ((ds.readBatch table b).2 = .ok () ∧
      ReadsCleanly table (ds.readBatch table b).1 bs))

theorem aligned_iff_toOption :
    Aligned ds ↔ (ds.takeSamples.2.map Holding.count).toOption.isSome = true ∧
      (ds.takeSamples.2.map Holding.count).toOption = (ds.takeTargets.2.map Tensor.length).toOption := by
  unfold Aligned
  cases ds.takeSamples.2.map Holding.count <;> cases ds.takeTargets.2.map Tensor.length <;>
    simp [Except.toOption, eq_comm]

instance decidableAligned (ds : Dataset) : Decidable (Aligned ds) :=
  decidable_of_iff _ aligned_iff_toOption.symm

theorem aligned_iff {n m : Nat} (hs : ds.takeSamples.2.map Holding.count = .ok n)
    (ht : ds.takeTargets.2.map Tensor.length = .ok m) : Aligned ds ↔ n = m := by
  rw [Aligned, hs, ht]
  constructor
  · rintro ⟨k, h₁, h₂⟩
    cases h₁
    cases h₂
    rfl
  · rintro rfl
    exact ⟨n, rfl, rfl⟩

/-! ## One read -/

theorem addValues_eq_ok {v : Holding} {l : Bool} {n : Nat} {target : Datum}
    (h : (ds.addValues v l n target).2 = .ok ()) :
    ∃ samples col targets, ds.store.samples.add v l = .ok samples ∧
      targetColumn target n = .ok col ∧ ds.store.targets.add (.array col) false = .ok targets ∧
      (ds.addValues v l n target).1 = { ds with store := { ds.store with samples, targets } } := by
  unfold addValues at h ⊢
  rcases hs : ds.store.samples.add v l with e | samples
  · simp [hs] at h
  · simp only [hs] at h ⊢
    rcases hc : targetColumn target n with e | col
    · simp [hc] at h
    · simp only [hc, Outcome.ok_bind] at h ⊢
      rcases ht : ds.store.targets.add (.array col) false with e | targets
      · simp [ht] at h
      · exact ⟨samples, col, targets, rfl, rfl, ht, rfl⟩

private theorem mem_ite_some {α : Type} {p : Bool} {a c : α} (h : c ∈ (if p then some a else none)) :
    c = a := by
  split at h
  · exact (Option.mem_some_iff.mp h).symm
  · cases h

theorem readValues_set {s : ObservableSet} {ev : Events} {given : Option (List GivenCut)}
    {r : Option (Holding × Bool)} (hL : ds.store.layout = .set s)
    (h : (ds.readValues table ev given).2 = .ok r) :
    (ds.readValues table ev given).1 = ds ∧ ∀ c ∈ r, c.1.isArray = true ∧ c.2 = false := by
  unfold readValues at h ⊢
  simp only [hL] at h ⊢
  refine ⟨trivial, ?_⟩
  rw [Outcome.bind_eq_ok] at h
  obtain ⟨_, -, h⟩ := h
  rw [Outcome.bind_eq_ok] at h
  obtain ⟨_, -, h⟩ := h
  cases h
  intro c hc
  cases hc
  exact ⟨rfl, rfl⟩

theorem readValues_image {img : Image} {ev : Events} {given : Option (List GivenCut)}
    {r : Option (Holding × Bool)} (hL : ds.store.layout = .image img)
    (h : (ds.readValues table ev given).2 = .ok r) :
    (img.read table ev).2 = none ∧
      (ds.readValues table ev given).1 =
        { ds with store := { ds.store with layout := .image (img.read table ev).1 } } ∧
      ∀ c ∈ r, c.1.isArray = ((img.read table ev).1.beenPixelated.isSome &&
          (img.read table ev).1.beenRead) ∧ (c.1.isArray = true → c.2 = false) := by
  unfold readValues at h ⊢
  simp only [hL] at h ⊢
  rcases hread : img.read table ev with ⟨j, _ | e⟩
  · simp only [hread] at h ⊢
    refine ⟨trivial, trivial, ?_⟩
    rw [Outcome.bind_eq_ok] at h
    obtain ⟨m, -, h⟩ := h
    rw [Outcome.bind_eq_ok] at h
    obtain ⟨vals, hvals, h⟩ := h
    -- the values are grids exactly when the image is binned and read
    have hkind : (vals matches .grids _) = (j.beenPixelated.isSome && j.beenRead) := by
      rcases Image.valueArrays_eq_ok hvals with ⟨⟨t, rfl⟩, hb⟩ | ⟨⟨_, _, rfl⟩, hb⟩ <;> rw [hb]
    intro c hc
    rw [← hkind]
    -- an image no longer good adds nothing; otherwise the values come as read
    split at h
    · cases h
      rw [mem_ite_some hc]
      exact ⟨rfl, fun _ => rfl⟩
    · cases h
      rw [mem_ite_some hc]
      exact ⟨rfl, nofun⟩
    · rw [Outcome.bind_eq_ok] at h
      obtain ⟨_, -, h⟩ := h
      cases h
      rw [mem_ite_some hc]
      exact ⟨rfl, fun _ => rfl⟩
    · rw [Outcome.bind_eq_ok] at h
      obtain ⟨_, -, h⟩ := h
      rw [Outcome.bind_eq_ok] at h
      obtain ⟨_, -, h⟩ := h
      cases h
      rw [mem_ite_some hc]
      exact ⟨rfl, nofun⟩
  · simp [hread] at h

theorem readBatch_eq_ok {b : Batch} (h : (ds.readBatch table b).2 = .ok ()) :
    ∃ given, (ds.readValues table b.events given).2 = .ok (ds.added table b) ∧
      ((ds.added table b = none ∧
          (ds.readBatch table b).1 = (ds.readValues table b.events given).1) ∨
        ∃ v l, ds.added table b = some (v, l) ∧
          ds.readBatch table b =
            (ds.readValues table b.events given).1.addValues v l v.count b.target) := by
  unfold readBatch read at h ⊢
  unfold added
  rcases hg : b.cuts.mapM (fun cs => cs.mapM (GivenCut.ofDatum table)) with e | given
  · simp [hg] at h
  · simp only [hg] at h ⊢
    refine ⟨given, ?_⟩
    rcases hrv : ds.readValues table b.events given with ⟨ds₀, e | _ | ⟨v, l⟩⟩
    · simp [hrv] at h
    · exact ⟨rfl, .inl ⟨rfl, rfl⟩⟩
    · exact ⟨rfl, .inr ⟨v, l, rfl, rfl⟩⟩

/-- What stays true of a dataset over its reads: nothing is kept to load from
a file, and its layout is settled, with samples of one kind. -/
def Keeps (rows : Bool) (ds : Dataset) : Prop :=
  ds.store.saved = none ∧ ds.store.layout.Settled ∧ ds.store.layout.rowSamples = rows

theorem readValues_keeps {rows : Bool} {ev : Events} {given : Option (List GivenCut)}
    {r : Option (Holding × Bool)} (hk : Keeps rows ds) (h : (ds.readValues table ev given).2 = .ok r) :
    Keeps rows (ds.readValues table ev given).1 ∧
      (ds.readValues table ev given).1.store.samples = ds.store.samples ∧
      (ds.readValues table ev given).1.store.targets = ds.store.targets ∧
      ∀ c ∈ r, c.1.isArray = rows ∧ (c.1.isArray = true → c.2 = false) := by
  obtain ⟨hsaved, hsettled, hrows⟩ := hk
  rcases hL : ds.store.layout with s | img
  · obtain ⟨hds, hc⟩ := readValues_set hL h
    rw [hds]
    simp only [hL, Layout.rowSamples] at hrows
    refine ⟨⟨hsaved, hsettled, by rw [hL, ← hrows]; rfl⟩, rfl, rfl, fun c hcr => ?_⟩
    obtain ⟨ha, hl⟩ := hc c hcr
    exact ⟨ha.trans hrows, fun _ => hl⟩
  · obtain ⟨hread, hds, hc⟩ := readValues_image hL h
    rw [hds]
    have hbinned : img.BinnedAsRegistered := by simpa [hL, Layout.Settled] using hsettled
    have hpix : img.pixelated = rows := by simpa [hL, Layout.rowSamples] using hrows
    obtain ⟨hbinned', hpix'⟩ := Image.read_binnedAsRegistered ev hread
    obtain ⟨hbp, -, hbr⟩ := Image.read_binning ev hread
    -- the read image is binned as its registered operations say, and so as before
    have hany : img.registered.any ImageStep.isPixelate = rows := hbinned ▸ hpix
    refine ⟨⟨hsaved, hbinned', by simp [Layout.rowSamples, hpix', hany]⟩, rfl, rfl,
      fun c hcr => ?_⟩
    obtain ⟨hkind, hl⟩ := hc c hcr
    refine ⟨?_, hl⟩
    rw [hkind, hbp, hbr, hany]
    cases rows <;> rfl

theorem readBatch_cases {rows : Bool} {b : Batch} (hk : Keeps rows ds)
    (hok : (ds.readBatch table b).2 = .ok ()) :
    Keeps rows (ds.readBatch table b).1 ∧
      ((ds.added table b = none ∧ (ds.readBatch table b).1.store.samples = ds.store.samples ∧
          (ds.readBatch table b).1.store.targets = ds.store.targets) ∨
        ∃ v l col, ds.added table b = some (v, l) ∧ v.isArray = rows ∧ (v.isArray = true → l = false) ∧
          ds.store.samples.add v l = .ok (ds.readBatch table b).1.store.samples ∧
          targetColumn b.target v.count = .ok col ∧
          ds.store.targets.add (.array col) false = .ok (ds.readBatch table b).1.store.targets) := by
  obtain ⟨given, hrv, hcase⟩ := readBatch_eq_ok hok
  obtain ⟨hk', hsamples, htargets, hkind⟩ := readValues_keeps hk hrv
  rcases hcase with ⟨hnone, hds⟩ | ⟨v, l, hsome, hds⟩
  · rw [hds]
    exact ⟨hk', .inl ⟨hnone, hsamples, htargets⟩⟩
  · obtain ⟨ha, hl⟩ := hkind (v, l) (by rw [hsome]; rfl)
    rw [hds] at hok ⊢
    obtain ⟨samples, col, targets, hsa, hcol, hta, heq⟩ := addValues_eq_ok hok
    rw [heq]
    exact ⟨hk', .inr ⟨v, l, col, hsome, ha, hl, hsamples ▸ hsa, hcol, htargets ▸ hta⟩⟩

theorem readBatch_targets {rows : Bool} {b : Batch} {T : Tensor} {src : List (Holding × Nat × Datum)}
    (hk : Keeps rows ds) (ht : ds.store.targets.TargetsFrom T src)
    (hok : (ds.readBatch table b).2 = .ok ()) :
    ∃ T', (ds.readBatch table b).1.store.targets.TargetsFrom T'
      (src ++ (ds.added table b).toList.flatMap (·.1.sources b.target)) := by
  rcases (readBatch_cases hk hok).2 with ⟨hnone, -, htargets⟩ | ⟨v, l, col, hsome, -, -, -, hcol, hta⟩
  · rw [hnone, htargets]
    exact ⟨T, by simpa using ht⟩
  · rw [hsome]
    simp only [Option.toList_some, List.flatMap_cons, List.flatMap_nil, List.append_nil]
    exact ht.add (by simpa using hcol) (by simp [Holding.sources]) hta

theorem readBatch_rows {b : Batch} {S : Tensor} {src : List (Holding × Nat × Datum)}
    (hk : Keeps true ds) (hs : ds.store.samples.RowsFrom S src)
    (hok : (ds.readBatch table b).2 = .ok ()) :
    ∃ S', (ds.readBatch table b).1.store.samples.RowsFrom S'
      (src ++ (ds.added table b).toList.flatMap (·.1.sources b.target)) := by
  rcases (readBatch_cases hk hok).2 with ⟨hnone, hsamples, -⟩ | ⟨v, l, col, hsome, ha, hl, hsa, -, -⟩
  · rw [hnone, hsamples]
    exact ⟨S, by simpa using hs⟩
  · -- the values of a dataset of rows are one array, added as such
    obtain ⟨t, rfl⟩ : ∃ t, v = .array t := by
      cases v with
      | array t => exact ⟨t, rfl⟩
      | pair => cases ha
    obtain rfl : l = false := hl ha
    rw [hsome]
    simp only [Option.toList_some, List.flatMap_cons, List.flatMap_nil, List.append_nil]
    exact hs.add hsa

theorem readBatch_pairs {b : Batch} {p : PairView} (hk : Keeps false ds)
    (hs : ds.store.samples.HoldsPairs p) (hok : (ds.readBatch table b).2 = .ok ()) :
    (ds.readBatch table b).1.store.samples.HoldsPairs
        (((ds.added table b).toList.map (fun c => (c.1.count, c.2))).foldl PairView.step p) ∧
      PairView.Admissible p ((ds.added table b).toList.map (fun c => (c.1.count, c.2))) := by
  rcases (readBatch_cases hk hok).2 with ⟨hnone, hsamples, -⟩ | ⟨v, l, col, hsome, ha, -, hsa, -, -⟩
  · rw [hnone, hsamples]
    exact ⟨hs, trivial⟩
  · -- the values of a dataset of pairs are heights and widths
    obtain ⟨hv, wv, rfl⟩ : ∃ hv wv, v = .pair hv wv := by
      cases v with
      | array => cases ha
      | pair hv wv => exact ⟨hv, wv, rfl⟩
    rw [hsome]
    obtain ⟨hfits, hsamples'⟩ := hs.add hsa
    exact ⟨hsamples', hfits, trivial⟩

/-! ## Runs -/

theorem PairView.admissible_append {p : PairView} {cs cs' : List (Nat × Bool)} :
    PairView.Admissible p (cs ++ cs') ↔
      PairView.Admissible p cs ∧ PairView.Admissible (cs.foldl PairView.step p) cs' := by
  induction cs generalizing p with
  | nil => simp [PairView.Admissible]
  | cons c cs ih => simp [PairView.Admissible, ih, and_assoc]

theorem readAll_keeps {rows : Bool} {bs : List Batch} (hk : Keeps rows ds)
    (hclean : ReadsCleanly table ds bs) : Keeps rows (readAll table ds bs) := by
  induction bs generalizing ds with
  | nil => exact hk
  | cons b bs ih => exact ih (readBatch_cases hk hclean.1).1 hclean.2

/-- What every clean read carries over to the sources it adds, a run carries
over to all the sources of its reads. -/
theorem readAll_extends {rows : Bool} {bs : List Batch} {src : List (Holding × Nat × Datum)}
    (Q : Dataset → List (Holding × Nat × Datum) → Prop)
    (step : ∀ (ds : Dataset) b src, Keeps rows ds → Q ds src → (ds.readBatch table b).2 = .ok () →
      Q (ds.readBatch table b).1 (src ++ (ds.added table b).toList.flatMap (·.1.sources b.target)))
    (hk : Keeps rows ds) (hq : Q ds src) (hclean : ReadsCleanly table ds bs) :
    Q (readAll table ds bs) (src ++ sources table ds bs) := by
  induction bs generalizing ds src with
  | nil => simpa [readAll, sources] using hq
  | cons b bs ih =>
    obtain ⟨hok, hrest⟩ := hclean
    have hrun := ih (readBatch_cases hk hok).1 (step ds b src hk hq hok) hrest
    simpa [readAll, sources, List.append_assoc] using hrun

theorem readAll_targets {rows : Bool} {bs : List Batch} {T : Tensor} {src : List (Holding × Nat × Datum)}
    (hk : Keeps rows ds) (ht : ds.store.targets.TargetsFrom T src) (hclean : ReadsCleanly table ds bs) :
    ∃ T', (readAll table ds bs).store.targets.TargetsFrom T' (src ++ sources table ds bs) :=
  readAll_extends (fun ds src => ∃ T, ds.store.targets.TargetsFrom T src)
    (fun _ _ _ hk hq hok => hq.elim fun _ ht => readBatch_targets hk ht hok) hk ⟨T, ht⟩ hclean

theorem readAll_rows {bs : List Batch} {S : Tensor} {src : List (Holding × Nat × Datum)}
    (hk : Keeps true ds) (hs : ds.store.samples.RowsFrom S src) (hclean : ReadsCleanly table ds bs) :
    ∃ S', (readAll table ds bs).store.samples.RowsFrom S' (src ++ sources table ds bs) :=
  readAll_extends (fun ds src => ∃ S, ds.store.samples.RowsFrom S src)
    (fun _ _ _ hk hq hok => hq.elim fun _ hs => readBatch_rows hk hs hok) hk ⟨S, hs⟩ hclean

theorem readAll_pairs {bs : List Batch} {p : PairView} (hk : Keeps false ds)
    (hs : ds.store.samples.HoldsPairs p) (hclean : ReadsCleanly table ds bs) :
    (readAll table ds bs).store.samples.HoldsPairs
        (((contributions table ds bs).map (fun c => (c.1.count, c.2))).foldl PairView.step p) ∧
      PairView.Admissible p ((contributions table ds bs).map (fun c => (c.1.count, c.2))) := by
  induction bs generalizing ds p with
  | nil => exact ⟨hs, trivial⟩
  | cons b bs ih =>
    obtain ⟨hok, hrest⟩ := hclean
    obtain ⟨hs', hadm⟩ := readBatch_pairs hk hs hok
    obtain ⟨hs'', hadm'⟩ := ih (readBatch_cases hk hok).1 hs' hrest
    simp only [readAll, contributions, List.map_append, List.foldl_append, PairView.admissible_append]
    exact ⟨hs'', hadm, hadm'⟩

/-! ## Reading samples and targets out -/

theorem settle_of_saved {st : Store} (h : st.saved = none) (b : Bool) :
    (st.settle b).samples = st.samples ∧ (st.settle b).targets = st.targets := by
  unfold Store.settle
  simp only [h]
  split <;> exact ⟨rfl, rfl⟩

theorem reload_of_saved {st : Store} (h : st.saved = none) (b : Bool) : st.reload b = st := by
  unfold Store.reload
  split
  · next hsaved => simp [h] at hsaved
  · rfl

theorem takeSamples_snd : ds.takeSamples.2 = ds.store.takeSamples.2 := rfl

theorem takeTargets_snd : ds.takeTargets.2 = ds.store.takeTargets.2 := rfl

theorem takeSamples_rows {S : Tensor} {src : List (Holding × Nat × Datum)} (hk : Keeps true ds)
    (hs : ds.store.samples.RowsFrom S src) :
    ∃ S', ds.takeSamples.2 = .ok (.array S') ∧ S'.length = src.length ∧
      ∀ j v i t, src[j]? = some (.array v, i, t) → S'.RowFrom j v i := by
  obtain ⟨hsaved, -, hrows⟩ := hk
  rw [takeSamples_snd]
  unfold Store.takeSamples
  rcases hL : ds.store.layout with s | img
  · simp only [(settle_of_saved hsaved false).1, hs.value]
    exact ⟨S, rfl, hs.length, hs.rows⟩
  · have hpix : img.pixelated = true := by simpa [Layout.rowSamples, hL] using hrows
    simp only [reload_of_saved hsaved, hpix, if_true, hs.value, Holding.toArray_array, Outcome.ok_bind]
    exact ⟨S.astype .float32, rfl, hs.length, fun j v i t h => (hs.rows j v i t h).astype .float32⟩

theorem takeSamples_pairs {p : PairView} (hk : Keeps false ds) (hs : ds.store.samples.HoldsPairs p) :
    ds.takeSamples.2.map Holding.count = .ok p.shown := by
  obtain ⟨hsaved, -, hrows⟩ := hk
  rw [takeSamples_snd]
  unfold Store.takeSamples
  rcases hL : ds.store.layout with s | img
  · simp [Layout.rowSamples, hL] at hrows
  · have hpix : img.pixelated = false := by simpa [Layout.rowSamples, hL] using hrows
    simp only [reload_of_saved hsaved, hpix, Bool.false_eq_true, if_false]
    rcases hs.2 with ⟨hv, wv, hval, hlen⟩ | ⟨T, hval, hT, htail, -⟩
    · simp only [hval, Holding.entry, Outcome.ok_bind]
      exact congrArg Except.ok ((Store.length_imageAxis hv).trans hlen)
    · -- stacked pairs: the first entry holds the heights of the first pair
      rcases hsh : T.shape with _ | ⟨k, rest⟩
      · simp [Tensor.length, hsh] at hT
      · have hk : 2 ≤ k := Tensor.length_eq_of_shape hsh ▸ hT
        obtain ⟨r0, h0, hr0⟩ := Holding.entry_array hsh (i := 0) (by omega)
        obtain ⟨r1, h1, -⟩ := Holding.entry_array hsh (i := 1) (by omega)
        simp only [hval, h0, h1, Outcome.ok_bind]
        refine congrArg Except.ok ((Store.length_imageAxis r0).trans ?_)
        rw [← htail, hsh]
        simp [Tensor.length, hr0]

theorem takeTargets_from {rows : Bool} {T : Tensor} {src : List (Holding × Nat × Datum)}
    (hk : Keeps rows ds) (ht : ds.store.targets.TargetsFrom T src) :
    ∃ T', ds.takeTargets.2 = .ok T' ∧ T'.length = src.length ∧
      ∀ j s, src[j]? = some s → ∃ x, targetValue s.2.2 = .ok x ∧ T'.element? [j] = some x := by
  obtain ⟨hsaved, -, -⟩ := hk
  have hlen : T.length = src.length := by simp [Tensor.length, ht.shape]
  rw [takeTargets_snd]
  unfold Store.takeTargets
  rcases ds.store.layout with s | img
  · simp only [(settle_of_saved hsaved true).2, ht.value, Holding.toArray_array]
    exact ⟨T, rfl, hlen, ht.targets⟩
  · simp only [reload_of_saved hsaved, ht.value, Holding.toArray_array, Outcome.ok_bind]
    refine ⟨T.astype .int32, rfl, hlen, fun j s hs => ?_⟩
    obtain ⟨x, hx, hxj⟩ := ht.targets j s hs
    refine ⟨x, hx, ?_⟩
    rw [Tensor.element?_astype, hxj]
    split <;> simp [cast_targetValue hx]

/-! ## From a fresh dataset -/

theorem new_keeps {L : Layout} (hL : L.Settled) : Keeps L.rowSamples (new L) := by
  cases L <;> exact ⟨rfl, hL, rfl⟩

theorem new_targets : (new L).store.targets.TargetsFrom (Tensor.ofList .float64 []) [] := by
  cases L <;> exact Held.empty_targetsFrom

theorem new_samples_rows {L : Layout} (hr : L.rowSamples = true) :
    (new L).store.samples.RowsFrom (Tensor.ofList .float64 []) [] := by
  cases L with
  | set s => exact Held.empty_rowsFrom
  | image img =>
    simp only [Layout.rowSamples] at hr
    simp only [new, Store.new, hr, if_true]
    exact Held.empty_rowsFrom

theorem new_samples_pairs {L : Layout} (hr : L.rowSamples = false) :
    (new L).store.samples.HoldsPairs ⟨0, true⟩ := by
  cases L with
  | set s => cases hr
  | image img =>
    simp only [Layout.rowSamples] at hr
    simp only [new, Store.new, hr, Bool.false_eq_true, if_false]
    exact Held.emptyPair_holdsPairs

theorem readAll_aligned_iff (L : Layout) (bs : List Batch) (hL : L.Settled)
    (hclean : ReadsCleanly table (new L) bs) :
    Aligned (readAll table (new L) bs) ↔
      L.rowSamples = true ∨ ((contributions table (new L) bs).dropLast.map (·.1.count)).sum = 0 := by
  have hk := new_keeps hL
  obtain ⟨T, ht⟩ := readAll_targets hk new_targets hclean
  obtain ⟨T', hT', hlen, -⟩ := takeTargets_from (readAll_keeps hk hclean) ht
  have htargets : (readAll table (new L) bs).takeTargets.2.map Tensor.length =
      .ok ((contributions table (new L) bs).map (·.1.count)).sum := by
    rw [hT', ← length_sources_eq_sum, ← List.nil_append (sources _ _ _), ← hlen]
    rfl
  cases hr : L.rowSamples with
  | true =>
    rw [hr] at hk
    obtain ⟨S, hs⟩ := readAll_rows hk (new_samples_rows hr) hclean
    obtain ⟨S', hS', hslen, -⟩ := takeSamples_rows (readAll_keeps hk hclean) hs
    have hsamples : (readAll table (new L) bs).takeSamples.2.map Holding.count =
        .ok ((contributions table (new L) bs).map (·.1.count)).sum := by
      rw [hS', ← length_sources_eq_sum, ← List.nil_append (sources _ _ _), ← hslen]
      rfl
    simp only [true_or, aligned_iff hsamples htargets]
  | false =>
    rw [hr] at hk
    obtain ⟨hs, hadm⟩ := readAll_pairs hk (new_samples_pairs hr) hclean
    -- only the view of the pairs is read out, against every target
    have hview := PairView.shown_foldl_eq_sum_iff hadm
    simp only [List.map_map, ← List.map_dropLast] at hview
    rw [aligned_iff (takeSamples_pairs (readAll_keeps hk hclean) hs) htargets]
    simp only [Bool.false_eq_true, false_or]
    exact hview

/-- Over any run of reads that succeed, a fresh dataset holds, in read order, a
target for every sample its reads add: the target of the read that added it.
Samples that are rows are those rows, each holding the row its read added;
heights and widths keep the samples of one read in view, so samples and targets
agree in number exactly when the samples are rows or no read but the last that
adds samples selects any event. -/
theorem readAll_samples_follow_reads (L : Layout) (bs : List Batch) (hL : L.Settled)
    (hclean : ReadsCleanly table (new L) bs) :
    (∃ T, (readAll table (new L) bs).takeTargets.2 = .ok T ∧
      T.length = (sources table (new L) bs).length ∧
      ∀ j s, (sources table (new L) bs)[j]? = some s →
        ∃ x, targetValue s.2.2 = .ok x ∧ T.element? [j] = some x) ∧
    (L.rowSamples = true → ∃ S, (readAll table (new L) bs).takeSamples.2 = .ok (.array S) ∧
      S.length = (sources table (new L) bs).length ∧
      ∀ j v i t, (sources table (new L) bs)[j]? = some (.array v, i, t) → S.RowFrom j v i) ∧
    (Aligned (readAll table (new L) bs) ↔
      L.rowSamples = true ∨ ((contributions table (new L) bs).dropLast.map (·.1.count)).sum = 0) := by
  have hk := new_keeps hL
  refine ⟨?_, fun hr => ?_, readAll_aligned_iff L bs hL hclean⟩
  · obtain ⟨T, ht⟩ := readAll_targets hk new_targets hclean
    simpa using takeTargets_from (readAll_keeps hk hclean) ht
  · rw [hr] at hk
    obtain ⟨S, hs⟩ := readAll_rows hk (new_samples_rows hr) hclean
    simpa using takeSamples_rows (readAll_keeps hk hclean) hs

theorem toInt_element?_of_sources {T : Tensor} {src : List (Holding × Nat × Datum)}
    (htargets : ∀ j s, src[j]? = some s → ∃ x, targetValue s.2.2 = .ok x ∧ T.element? [j] = some x)
    {j : Nat} {n : Int}
    (h : (src.map fun s => (targetValue s.2.2).toOption.map Scalar.toInt)[j]? = some (some n)) :
    (T.element? [j]).map Scalar.toInt = some n := by
  rw [List.getElem?_map, Option.map_eq_some_iff] at h
  obtain ⟨s, hs, hn⟩ := h
  obtain ⟨x, hx, hxj⟩ := htargets j s hs
  rw [hx] at hn
  rw [hxj]
  simpa [Except.toOption] using hn

def jetImage : Layout :=
  .image { height := .observable Image.jetEta, width := .observable Image.jetPhi }

def jetEtaSet : Layout := .set ⟨[.observable Image.jetEta]⟩

def jetBatch (target : Int) : Batch := ⟨Image.oneJetEvent, .int target, none⟩

/-- Two reads into a set keep each sample with the target of its read. -/
theorem readAll_samples_follow_two_reads :
    jetEtaSet.Settled ∧ ReadsCleanly AliasTable.shipped (new jetEtaSet) [jetBatch 1, jetBatch 0] ∧
      ∃ T, (readAll AliasTable.shipped (new jetEtaSet) [jetBatch 1, jetBatch 0]).takeTargets.2 = .ok T ∧
        (T.element? [0]).map Scalar.toInt = some 1 ∧ (T.element? [1]).map Scalar.toInt = some 0 := by
  have hL : jetEtaSet.Settled := trivial
  have hclean : ReadsCleanly AliasTable.shipped (new jetEtaSet) [jetBatch 1, jetBatch 0] := by
    decide +kernel
  obtain ⟨⟨T, hT, -, htargets⟩, -, -⟩ := readAll_samples_follow_reads jetEtaSet _ hL hclean
  have hsrc : (sources AliasTable.shipped (new jetEtaSet) [jetBatch 1, jetBatch 0]).map
      (fun s => (targetValue s.2.2).toOption.map Scalar.toInt) = [some 1, some 0] := by
    decide +kernel
  exact ⟨hL, hclean, T, hT, toInt_element?_of_sources htargets (by rw [hsrc]; rfl),
    toInt_element?_of_sources htargets (by rw [hsrc]; rfl)⟩

/-- Two reads without cuts stack the second pair under the first, so only the
first read's sample is read out, against both targets. -/
theorem readAll_misaligned_after_two_reads :
    ReadsCleanly AliasTable.shipped (new jetImage) [jetBatch 1, jetBatch 0] ∧
      ((readAll AliasTable.shipped (new jetImage) [jetBatch 1, jetBatch 0]).takeSamples.2.map
          Holding.count).toOption = some 1 ∧
      ((readAll AliasTable.shipped (new jetImage) [jetBatch 1, jetBatch 0]).takeTargets.2.map
          Tensor.length).toOption = some 2 ∧
      ¬ Aligned (readAll AliasTable.shipped (new jetImage) [jetBatch 1, jetBatch 0]) := by
  decide +kernel

end Dataset

end ColliderML
