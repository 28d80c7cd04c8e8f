import Mathlib
import ColliderML.Proofs.Dataset.Rebuild
import ColliderML.Proofs.Dataset.Alignment

/-!
# Reloading a saved store

Saving a store writes its configuration, its samples read out as one array and
its targets read out; loading builds its set or image again from the
configuration and takes the samples and targets from the file, at once or when
first read out. A store read out after loading reads the file's arrays the way
the saved store read what it held (`load_takeSamples`, `load_takeTargets`).

Reading out again changes nothing for targets and for rows of samples: a set's
samples are read as held, a binned image's as single precision, which they
already are (`Tensor.astype_astype`). The heights and widths of an image not
binned are stacked into one array on saving, which needs them to have one
shape, and come back as its two rows in their common element type, their inner
axes merged once more, which merging already did. Compared as arrays compare,
in that common type, they come back element by element (`save_load_reloads`).
-/

namespace ColliderML

namespace Shape

@[simp] theorem size_nil : Shape.size [] = 1 := rfl

@[simp] theorem size_cons (n : Nat) (s : Shape) : Shape.size (n :: s) = n * s.size := rfl

theorem size_append (s t : Shape) : (s ++ t).size = s.size * t.size := by
  induction s with
  | nil => simp
  | cons n s ih => simp [ih, Nat.mul_assoc]

end Shape

namespace DType

theorem promote_promote_left (a b : DType) : (a.promote b).promote a = a.promote b := by
  cases a <;> cases b <;> rfl

theorem promote_promote_right (a b : DType) : (a.promote b).promote b = a.promote b := by
  cases a <;> cases b <;> rfl

end DType

namespace Tensor

def Filled (t : Tensor) : Prop := t.data.size = t.shape.size

instance decidableFilled (t : Tensor) : Decidable t.Filled := inferInstanceAs (Decidable (_ = _))

/-- Two arrays equal element by element, as arrays compare: one shape, and the
same elements once both are converted to their common element type. -/
def EqualElements (a b : Tensor) : Prop :=
  a.shape = b.shape ∧ (a.astype (a.dtype.promote b.dtype)).data = (b.astype (a.dtype.promote b.dtype)).data

theorem EqualElements.refl (a : Tensor) : a.EqualElements a := ⟨rfl, rfl⟩

@[simp] theorem dtype_astype (t : Tensor) (d : DType) : (t.astype d).dtype = d := rfl

@[simp] theorem size_data_astype (t : Tensor) (d : DType) : (t.astype d).data.size = t.data.size := by
  unfold astype
  split <;> simp

@[simp] theorem astype_astype (t : Tensor) (d : DType) : (t.astype d).astype d = t.astype d := by
  simp [astype]

theorem equalElements_astype (t : Tensor) {d : DType} (hd : d.promote t.dtype = d) :
    (t.astype d).EqualElements t := by
  refine ⟨rfl, ?_⟩
  rw [dtype_astype, hd, astype_astype]

theorem astype_eq_mk (t : Tensor) (d : DType) :
    t.astype d = { dtype := d, shape := t.shape, data := (t.astype d).data } := rfl

theorem stack_pair {h w : Tensor} (hshape : h.shape = w.shape) :
    stack [h, w] = .ok
      { dtype := h.dtype.promote w.dtype, shape := 2 :: h.shape,
        data := (h.astype (h.dtype.promote w.dtype)).data ++ (w.astype (h.dtype.promote w.dtype)).data } := by
  simp [stack, hshape]

theorem rows_stack {h w s : Tensor} (hs : stack [h, w] = .ok s) (hh : h.Filled) (hw : w.Filled) :
    s.rows = [h.astype (h.dtype.promote w.dtype), w.astype (h.dtype.promote w.dtype)] := by
  obtain ⟨hshape, -⟩ := stack_pair_eq_ok hs
  rw [stack_pair hshape] at hs
  cases hs
  set D := h.dtype.promote w.dtype
  set A := (h.astype D).data with hAdef
  set B := (w.astype D).data with hBdef
  have hA : A.size = h.shape.size := by rw [hAdef, size_data_astype]; exact hh
  have hB : B.size = h.shape.size := by rw [hBdef, size_data_astype, hshape]; exact hw
  -- the first row takes the first array's elements, the second the rest
  have h0 : (A ++ B).extract 0 h.shape.size = A := by
    rw [← hA, Array.extract_append_left, Array.extract_eq_self_of_le (le_refl _)]
  have h1 : (A ++ B).extract h.shape.size (h.shape.size + h.shape.size) = B := by
    rw [Array.extract_append, hA, Nat.sub_self, Nat.add_sub_cancel]
    have hempty : A.extract h.shape.size (h.shape.size + h.shape.size) = #[] := by
      apply Array.eq_empty_of_size_eq_zero
      simp [hA]
    rw [hempty, Array.empty_append, ← hB, Array.extract_eq_self_of_le (le_refl _)]
  simp only [rows, List.range_succ, List.range_zero, List.nil_append, List.singleton_append,
    List.map_cons, List.map_nil, Nat.zero_mul, Nat.zero_add, Nat.one_mul, h0, h1]
  rw [astype_eq_mk h D, astype_eq_mk w D, hshape]

end Tensor

namespace Store

@[simp] theorem dtype_imageAxis (t : Tensor) : (imageAxis t).dtype = t.dtype := by
  unfold imageAxis
  split <;> simp

@[simp] theorem data_imageAxis (t : Tensor) : (imageAxis t).data = t.data := by
  unfold imageAxis
  split <;> simp

theorem imageAxis_astype (t : Tensor) (d : DType) : imageAxis (t.astype d) = (imageAxis t).astype d := by
  unfold imageAxis
  split <;> simp_all [Tensor.ndim, Tensor.mergeInner_astype]

theorem imageAxis_imageAxis (t : Tensor) : imageAxis (imageAxis t) = imageAxis t := by
  unfold imageAxis
  split <;> simp_all [Tensor.mergeInner_mergeInner]

theorem filled_imageAxis {t : Tensor} (h : t.Filled) : (imageAxis t).Filled := by
  unfold imageAxis
  split
  · exact h
  · rcases hs : t.shape with _ | ⟨n, rest⟩
    · simpa [Tensor.mergeInner, hs] using h
    · -- joining the inner axes keeps the number of elements
      unfold Tensor.Filled at h ⊢
      rw [Tensor.data_mergeInner, h, Tensor.shape_mergeInner_of_cons hs, hs]
      simp

end Store

namespace Tensor

theorem filled_of_mem_rows {t r : Tensor} (ht : t.Filled) (hr : r ∈ t.rows) : r.Filled := by
  unfold rows at hr
  split at hr
  · cases hr
  · next n rest hshape =>
    obtain ⟨i, hi, rfl⟩ := List.mem_map.mp hr
    have hi' : i < n := List.mem_range.mp hi
    have hsize : t.data.size = n * Shape.size rest := by
      unfold Filled at ht
      rw [ht, hshape]
      rfl
    -- the row's slice lies within the elements
    have hle : i * Shape.size rest + Shape.size rest ≤ n * Shape.size rest := by
      rw [← Nat.succ_mul]
      exact Nat.mul_le_mul_right _ hi'
    show (t.data.extract _ _).size = Shape.size rest
    rw [Array.size_extract, hsize, Nat.min_eq_left hle]
    omega

end Tensor

namespace Holding

def Filled : Holding → Prop
  | .array t => t.Filled
  | .pair h w => h.Filled ∧ w.Filled

instance decidableFilled : (v : Holding) → Decidable v.Filled
  | .array t => inferInstanceAs (Decidable t.Filled)
  | .pair h w => inferInstanceAs (Decidable (h.Filled ∧ w.Filled))

def FormsArray : Holding → Prop
  | .array _ => True
  | .pair h w => h.shape = w.shape

def EqualElements : Holding → Holding → Prop
  | .array a, .array b => a.EqualElements b
  | .pair h w, .pair h' w' => h.EqualElements h' ∧ w.EqualElements w'
  | _, _ => False

theorem EqualElements.refl : (v : Holding) → v.EqualElements v
  | .array a => Tensor.EqualElements.refl a
  | .pair h w => ⟨Tensor.EqualElements.refl h, Tensor.EqualElements.refl w⟩

theorem toArray_isOk_iff (v : Holding) : (∃ S, v.toArray = .ok S) ↔ v.FormsArray := by
  cases v with
  | array t => exact ⟨fun _ => trivial, fun _ => ⟨t, rfl⟩⟩
  | pair h w =>
    constructor
    · rintro ⟨S, hS⟩
      exact (toArray_pair_eq_ok hS).1
    · intro hshape
      have hshape : h.shape = w.shape := hshape
      exact ⟨_, by
        simp only [toArray, hshape, beq_self_eq_true, if_true]
        exact Tensor.stack_pair hshape⟩

theorem filled_of_entry {v : Holding} {i : Nat} {t : Tensor} (hv : v.Filled)
    (he : v.entry i = .ok t) : t.Filled := by
  cases v with
  | array T =>
    simp only [entry] at he
    split at he
    · cases he
    · split at he
      · next r hr =>
        cases he
        exact Tensor.filled_of_mem_rows hv (List.mem_of_getElem? hr)
      · cases he
  | pair h w =>
    simp only [entry] at he
    split at he
    · cases he; exact hv.1
    · cases he; exact hv.2
    · cases he

end Holding

namespace Layout

/-- The samples a store of the layout reads out of what it holds: a set's as
they are, a binned image's as one single-precision array, and otherwise the
heights and widths, its first two entries, with their inner axes merged. -/
def samplesOut (L : Layout) (v : Holding) : Outcome Holding :=
  match L with
  | .set _ => .ok v
  | .image img =>
    if img.pixelated then do pure (.array ((← v.toArray).astype .float32))
    else do
      let h ← v.entry 0
      let w ← v.entry 1
      pure (.pair (Store.imageAxis h) (Store.imageAxis w))

/-- The targets a store of the layout reads out of what it holds: one array, of
32-bit integers for an image. -/
def targetsOut (L : Layout) (v : Holding) : Outcome Tensor :=
  match L with
  | .set _ => v.toArray
  | .image _ => do pure ((← v.toArray).astype .int32)

theorem Rebuilds.samplesOut {L' L : Layout} (h : L'.Rebuilds L) : L'.samplesOut = L.samplesOut := by
  obtain ⟨-, hkind⟩ := h
  cases L' <;> cases L
  · rfl
  · cases hkind
  · cases hkind
  · funext v
    simp only [Layout.samplesOut, hkind]

theorem Rebuilds.targetsOut {L' L : Layout} (h : L'.Rebuilds L) : L'.targetsOut = L.targetsOut := by
  obtain ⟨-, hkind⟩ := h
  cases L' <;> cases L
  · rfl
  · cases hkind
  · cases hkind
  · rfl

theorem targetsOut_targetsOut {L : Layout} {v : Holding} {T : Tensor} (h : L.targetsOut v = .ok T) :
    L.targetsOut (.array T) = .ok T := by
  cases L with
  | set s => rfl
  | image img =>
    obtain ⟨A, -, hT⟩ := Outcome.bind_eq_ok.mp h
    cases hT
    simp [targetsOut]

theorem samplesOut_stacked {img : Image} (hpx : img.pixelated = false) {H W S : Tensor}
    (hH : H.Filled) (hW : W.Filled) (hS : (Holding.pair H W).toArray = .ok S) :
    (Layout.image img).samplesOut (.array S) =
      .ok (.pair (Store.imageAxis (H.astype (H.dtype.promote W.dtype)))
        (Store.imageAxis (W.astype (H.dtype.promote W.dtype)))) := by
  obtain ⟨hsh, hshape⟩ := Holding.toArray_pair_eq_ok hS
  have hstack : Tensor.stack [H, W] = .ok S := by
    simpa only [Holding.toArray, hsh, beq_self_eq_true, if_true] using hS
  have hrows := Tensor.rows_stack hstack hH hW
  simp [samplesOut, hpx, Holding.entry, Tensor.ndim, hshape, hrows]

theorem samplesOut_reread {L : Layout} {x v : Holding} {S : Tensor}
    (hset : ∀ s, L = .set s → x.isArray = true) (hfill : x.Filled)
    (hv : L.samplesOut x = .ok v) (hS : v.toArray = .ok S) :
    ∃ u, L.samplesOut (.array S) = .ok u ∧ u.EqualElements v := by
  cases L with
  | set s =>
    cases x with
    | pair h w => cases hset s rfl
    | array t =>
      cases hv
      cases hS
      exact ⟨_, rfl, .refl _⟩
  | image img =>
    cases hpx : img.pixelated with
    | true =>
      -- a binned image reads one single-precision array, which it already is
      simp only [samplesOut, hpx, if_true, Outcome.bind_eq_ok, Outcome.pure_eq_ok,
        Except.ok.injEq] at hv
      obtain ⟨A, -, rfl⟩ := hv
      cases hS
      exact ⟨_, by simp [samplesOut, hpx], .refl _⟩
    | false =>
      simp only [samplesOut, hpx, Bool.false_eq_true, if_false, Outcome.bind_eq_ok,
        Outcome.pure_eq_ok, Except.ok.injEq] at hv
      obtain ⟨h, he0, w, he1, rfl⟩ := hv
      have hH := Store.filled_imageAxis (Holding.filled_of_entry hfill he0)
      have hW := Store.filled_imageAxis (Holding.filled_of_entry hfill he1)
      rw [samplesOut_stacked hpx hH hW hS, Store.imageAxis_astype, Store.imageAxis_astype,
        Store.imageAxis_imageAxis, Store.imageAxis_imageAxis]
      -- each comes back in the common element type of the two
      exact ⟨_, rfl, Tensor.equalElements_astype _ (DType.promote_promote_left _ _),
        Tensor.equalElements_astype _ (DType.promote_promote_right _ _)⟩

end Layout

namespace Store

variable {X : Store}

theorem takeSamples_of_saved (h : X.saved = none) :
    ∃ r, X.takeSamples = ({ X with beenRead := r }, X.layout.samplesOut X.samples.value) := by
  obtain ⟨L, samples, targets, saved, beenRead, sharesImage⟩ := X
  cases h
  cases L with
  | set s =>
    simp only [takeSamples, settle, Layout.samplesOut]
    split
    · exact ⟨some true, rfl⟩
    · exact ⟨beenRead, rfl⟩
  | image img =>
    refine ⟨beenRead, ?_⟩
    simp only [takeSamples, reload, Layout.samplesOut]
    split <;> rfl

theorem takeTargets_of_saved (h : X.saved = none) :
    ∃ r, X.takeTargets = ({ X with beenRead := r }, X.layout.targetsOut X.targets.value) := by
  obtain ⟨L, samples, targets, saved, beenRead, sharesImage⟩ := X
  cases h
  cases L with
  | set s =>
    simp only [takeTargets, settle, Layout.targetsOut]
    split
    · exact ⟨some true, rfl⟩
    · exact ⟨beenRead, rfl⟩
  | image img =>
    refine ⟨beenRead, ?_⟩
    simp only [takeTargets, reload, Layout.targetsOut]

theorem takeSamples_snd_of_saved (h : X.saved = none) :
    X.takeSamples.2 = X.layout.samplesOut X.samples.value := by
  obtain ⟨r, hr⟩ := takeSamples_of_saved h
  rw [hr]

theorem takeTargets_after_takeSamples (h : X.saved = none) :
    X.takeSamples.1.takeTargets.2 = X.layout.targetsOut X.targets.value := by
  obtain ⟨r, hr⟩ := takeSamples_of_saved h
  obtain ⟨r', hr'⟩ := takeTargets_of_saved (X := { X with beenRead := r }) h
  rw [hr]
  exact congrArg Prod.snd hr'

section File

variable {f : Saved}

theorem settle_samples_of_file (hs : X.saved = some f) (hr : X.beenRead = some false)
    (hempty : X.samples.value.length = 0) (ht : X.targets.value.length = 0) :
    X.settle false = { X with samples := Held.ofArray f.samples } := by
  unfold settle
  simp [hs, hr, hempty, ht]

theorem settle_targets_of_file (hs : X.saved = some f) (hr : X.beenRead = some false)
    (ht : X.targets.value.length = 0) :
    (X.settle true).targets.value = .array f.targets := by
  unfold settle
  simp [hs, hr, ht]
  split <;> rfl

theorem reload_samples_of_file (hs : X.saved = some f) (hr : X.beenRead = some false)
    (ht : X.targets.value.size = 0) :
    X.reload false = { X with samples := Held.ofArray f.samples } := by
  unfold reload
  simp [hs, hr, ht]

theorem reload_targets_of_file (hs : X.saved = some f) (hr : X.beenRead = some false) :
    (X.reload true).targets.value = .array f.targets := by
  unfold reload
  simp [hs, hr]
  split <;> rfl

theorem takeSamples_of_file (hs : X.saved = some f) (hr : X.beenRead = some false)
    (hempty : ∀ s, X.layout = .set s → X.samples.value.length = 0) (ht : X.targets = Held.empty) :
    X.takeSamples = ({ X with samples := Held.ofArray f.samples },
      X.layout.samplesOut (.array f.samples)) := by
  obtain ⟨L, samples, targets, saved, beenRead, sharesImage⟩ := X
  cases ht
  cases L with
  | set s =>
    simp only [takeSamples, settle_samples_of_file hs hr (hempty s rfl) rfl]
    rfl
  | image img =>
    simp only [takeSamples, reload_samples_of_file hs hr rfl]
    cases hpx : img.pixelated <;> simp [Layout.samplesOut, hpx, Held.ofArray]

theorem takeTargets_of_file (hs : X.saved = some f) (hr : X.beenRead = some false)
    (ht : X.targets = Held.empty) :
    X.takeTargets.2 = X.layout.targetsOut (.array f.targets) := by
  obtain ⟨L, samples, targets, saved, beenRead, sharesImage⟩ := X
  cases ht
  cases L with
  | set s =>
    simp only [takeTargets, settle_targets_of_file hs hr rfl]
    rfl
  | image img =>
    simp only [takeTargets, reload_targets_of_file hs hr]
    rfl

end File

@[simp] theorem layout_load (L : Layout) (lazy : Bool) (f : Saved) : (load L lazy f).layout = L := by
  cases lazy <;> cases L <;> rfl

theorem saved_load_eager (L : Layout) (f : Saved) : (load L false f).saved = none := by
  cases L <;> rfl

theorem load_lazy_unread (L : Layout) (f : Saved) :
    (load L true f).saved = some f ∧ (load L true f).beenRead = some false ∧
      (∀ s, (load L true f).layout = .set s → (load L true f).samples.value.length = 0) ∧
      (load L true f).targets = Held.empty := by
  refine ⟨rfl, rfl, ?_, by cases L <;> rfl⟩
  intro s hs
  rw [layout_load] at hs
  subst hs
  rfl

theorem load_takeSamples (L : Layout) (lazy : Bool) (f : Saved) :
    (load L lazy f).takeSamples.2 = L.samplesOut (.array f.samples) := by
  cases lazy with
  | false =>
    obtain ⟨r, hr⟩ := takeSamples_of_saved (saved_load_eager L f)
    rw [hr, layout_load]
    rfl
  | true =>
    obtain ⟨hs, hr, hempty, ht⟩ := load_lazy_unread L f
    rw [takeSamples_of_file hs hr hempty ht, layout_load]

theorem load_takeTargets (L : Layout) (lazy : Bool) (f : Saved) :
    (load L lazy f).takeSamples.1.takeTargets.2 = L.targetsOut (.array f.targets) := by
  cases lazy with
  | false =>
    obtain ⟨r, hr⟩ := takeSamples_of_saved (saved_load_eager L f)
    obtain ⟨r', hr'⟩ := takeTargets_of_saved (X := { load L false f with beenRead := r })
      (saved_load_eager L f)
    rw [hr]
    dsimp only
    rw [hr']
    exact congrArg (Layout.targetsOut · _) (layout_load L false f)
  | true =>
    obtain ⟨hs, hr, hempty, ht⟩ := load_lazy_unread L f
    rw [takeSamples_of_file hs hr hempty ht]
    exact (takeTargets_of_file (X := { load L true f with samples := Held.ofArray f.samples }) hs hr ht).trans
      (congrArg (Layout.targetsOut · _) (layout_load L true f))

theorem save_of_saved (h : X.saved = none) (b s : Datum) :
    ∃ r, X.save b s = ({ X with beenRead := r }, do
      let _ ← X.config b s
      let S ← X.layout.samplesOut X.samples.value >>= Holding.toArray
      let T ← X.layout.targetsOut X.targets.value
      pure { samples := S, targets := T }) := by
  obtain ⟨r₁, h₁⟩ := takeSamples_of_saved h
  obtain ⟨r₂, h₂⟩ := takeTargets_of_saved (X := { X with beenRead := r₁ }) h
  unfold save
  rcases hc : X.config b s with e | d
  · exact ⟨X.beenRead, rfl⟩
  · rw [h₁]
    dsimp only
    rw [Outcome.bind_eq_bind]
    rcases hS : X.layout.samplesOut X.samples.value >>= Holding.toArray with e | S
    · exact ⟨r₁, rfl⟩
    · rw [h₂]
      exact ⟨r₂, rfl⟩

theorem save_eq_ok_iff (h : X.saved = none) {b s : Datum} {f : Saved} :
    (X.save b s).2 = .ok f ↔ (∃ d, X.config b s = .ok d) ∧
      (∃ v, X.layout.samplesOut X.samples.value = .ok v ∧ v.toArray = .ok f.samples) ∧
      X.layout.targetsOut X.targets.value = .ok f.targets := by
  obtain ⟨r, hsave⟩ := save_of_saved h b s
  rw [hsave]
  simp only [Outcome.bind_eq_ok, Outcome.pure_eq_ok]
  constructor
  · rintro ⟨d, hc, S, ⟨v, hv, hS⟩, T, ht, hf⟩
    cases hf
    exact ⟨⟨d, hc⟩, ⟨v, hv, hS⟩, ht⟩
  · rintro ⟨⟨d, hc⟩, ⟨v, hv, hS⟩, ht⟩
    exact ⟨d, hc, f.samples, ⟨v, hv, hS⟩, f.targets, ht, rfl⟩

/-- A store as reads and splits leave it: no file, a layout built from parsed
observables, a set's samples held as one array, and every array held filling
its shape. -/
structure Kept (X : Store) : Prop where
  unsaved : X.saved = none
  parsed : X.layout.Parsed
  setArray : ∀ s, X.layout = .set s → X.samples.value.isArray = true
  filled : X.samples.value.Filled

/-- What saving needs: the configuration is written, the samples read out form
one array, and the targets are read out. -/
def Saves (X : Store) (b s : Datum) : Prop :=
  (∃ d, X.config b s = .ok d) ∧
    (∃ v, X.layout.samplesOut X.samples.value = .ok v ∧ v.FormsArray) ∧
    ∃ T, X.layout.targetsOut X.targets.value = .ok T

/-- A store reloaded from another: the same class and configuration, the same
targets read out after the samples, and samples read out equal element by element. -/
def Reloads (Y X : Store) : Prop :=
  Y.className = X.className ∧ (∀ b s, Y.config b s = X.config b s) ∧
    Y.takeSamples.1.takeTargets.2 = X.takeSamples.1.takeTargets.2 ∧
    ∃ u v, Y.takeSamples.2 = .ok u ∧ X.takeSamples.2 = .ok v ∧ u.EqualElements v

theorem save_isOk_iff (h : X.saved = none) (b s : Datum) :
    (∃ f, (X.save b s).2 = .ok f) ↔ X.Saves b s := by
  simp only [save_eq_ok_iff h, Saves]
  constructor
  · rintro ⟨f, hc, ⟨v, hv, hS⟩, ht⟩
    exact ⟨hc, ⟨v, hv, (Holding.toArray_isOk_iff v).mp ⟨_, hS⟩⟩, _, ht⟩
  · rintro ⟨hc, ⟨v, hv, hform⟩, T, ht⟩
    obtain ⟨S, hS⟩ := (Holding.toArray_isOk_iff v).mpr hform
    exact ⟨⟨S, T⟩, hc, ⟨v, hv, hS⟩, ht⟩

theorem className_eq_of_rebuilds {Y : Store} (hL : Y.layout.Rebuilds X.layout) :
    Y.className = X.className := by
  obtain ⟨-, hkind⟩ := hL
  unfold Store.className
  revert hkind
  cases Y.layout <;> cases X.layout <;> simp

theorem config_eq_of_rebuilds {Y : Store} (hL : Y.layout.Rebuilds X.layout) (b s : Datum) :
    Y.config b s = X.config b s := by
  simp only [Store.config, hL.1, className_eq_of_rebuilds hL]

theorem save_load_reloads (hk : X.Kept) {b s : Datum} {f : Saved}
    (hsave : (X.save b s).2 = .ok f) {L' : Layout} (hL : L'.Rebuilds X.layout) (lazy : Bool) :
    (load L' lazy f).Reloads (X.save b s).1 := by
  obtain ⟨-, ⟨v, hv, hS⟩, hT⟩ := (save_eq_ok_iff hk.unsaved).mp hsave
  obtain ⟨r, hX'⟩ := save_of_saved hk.unsaved b s
  rw [hX']
  dsimp only
  -- after saving, the store has no file still and reads out what it held
  have hsamples : ({ X with beenRead := r } : Store).takeSamples.2 = .ok v :=
    (takeSamples_snd_of_saved (X := { X with beenRead := r }) hk.unsaved).trans hv
  have htargets : ({ X with beenRead := r } : Store).takeSamples.1.takeTargets.2 = .ok f.targets :=
    (takeTargets_after_takeSamples (X := { X with beenRead := r }) hk.unsaved).trans hT
  have hlayout : (load L' lazy f).layout.Rebuilds ({ X with beenRead := r } : Store).layout := by
    rw [layout_load]
    exact hL
  obtain ⟨u, hu, heq⟩ := Layout.samplesOut_reread hk.setArray hk.filled hv hS
  refine ⟨className_eq_of_rebuilds hlayout, config_eq_of_rebuilds hlayout, ?_, u, v, ?_, hsamples, heq⟩
  · rw [load_takeTargets, htargets, hL.targetsOut, Layout.targetsOut_targetsOut hT]
  · rw [load_takeSamples, hL.samplesOut]
    exact hu

end Store

end ColliderML
