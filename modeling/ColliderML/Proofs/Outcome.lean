import Mathlib
import ColliderML.Error

/-!
# Reading outcomes apart

The readers and constructors of the library are written in `Outcome`, the
error monad.  A successful run of `x >>= f` is a successful `x` followed by a
successful `f`, and a successful `mapM` succeeds on every item: these are the
only two facts the proofs use about the monad, so every later proof peels a
computation apart with them instead of unfolding the monad.
-/

namespace ColliderML.Outcome

variable {α β : Type}

@[simp] theorem ok_bind (a : α) (f : α → Outcome β) : (Except.ok a : Outcome α) >>= f = f a := rfl

@[simp] theorem error_bind (e : Error) (f : α → Outcome β) :
    (Except.error e : Outcome α) >>= f = Except.error e := rfl

@[simp] theorem pure_eq_ok (a : α) : (pure a : Outcome α) = Except.ok a := rfl

theorem bind_eq_bind (x : Outcome α) (f : α → Outcome β) : x.bind f = x >>= f := rfl

theorem bind_eq_ok {x : Outcome α} {f : α → Outcome β} {b : β} :
    x >>= f = .ok b ↔ ∃ a, x = .ok a ∧ f a = .ok b := by
  cases x <;> simp

theorem map_eq_ok {x : Outcome α} {f : α → β} {b : β} :
    x.map f = .ok b ↔ ∃ a, x = .ok a ∧ f a = b := by
  cases x <;> simp [Except.map]

theorem bind_eq_error {x : Outcome α} {f : α → Outcome β} {e : Error} :
    x >>= f = .error e ↔ x = .error e ∨ ∃ a, x = .ok a ∧ f a = .error e := by
  cases x <;> simp

theorem map_eq_error {x : Outcome α} {f : α → β} {e : Error} :
    x.map f = .error e ↔ x = .error e := by
  cases x <;> simp [Except.map]

theorem exists_eq_ok_of_isOk {x : Outcome α} (h : x.isOk = true) : ∃ a, x = .ok a := by
  cases x with
  | error e => cases h
  | ok a => exact ⟨a, rfl⟩

theorem exists_eq_ok_of_view {x : Outcome α} {g : α → β} {y : β} (h : x.toOption.map g = some y) :
    ∃ a, x = .ok a ∧ g a = y := by
  cases x with
  | error e => cases h
  | ok a => exact ⟨a, rfl, by simpa [Except.toOption] using h⟩

theorem exists_eq_ok_some_of_view {x : Outcome (Option α)} {g : α → β} {y : β}
    (h : x.toOption.map (Option.map g) = some (some y)) : ∃ a, x = .ok (some a) ∧ g a = y := by
  cases x with
  | error e => cases h
  | ok r =>
    cases r with
    | none => cases h
    | some a => exact ⟨a, rfl, by simpa [Except.toOption] using h⟩

theorem isOk_iff_eq_ok_unit {x : Outcome Unit} : x.isOk = true ↔ x = .ok () := by
  cases x <;> simp [Except.isOk, Except.toBool]

theorem mapM_map_eq_ok {f : β → Outcome α} {g : α → β} {xs : List α}
    (h : ∀ x ∈ xs, f (g x) = .ok x) : (xs.map g).mapM f = .ok xs := by
  induction xs with
  | nil => rfl
  | cons x xs ih =>
      rw [List.map_cons, List.mapM_cons, h x (by simp), ok_bind,
        ih (fun y hy => h y (by simp [hy]))]
      rfl

theorem mapM_eq_ok_map {f : α → Outcome β} {g : α → β} {xs : List α}
    (h : ∀ x ∈ xs, f x = .ok (g x)) : xs.mapM f = .ok (xs.map g) := by
  induction xs with
  | nil => rfl
  | cons x xs ih =>
      rw [List.mapM_cons, h x (by simp), ok_bind, ih (fun y hy => h y (by simp [hy]))]
      rfl

theorem mapM_eq_ok_filterMap {f : α → Outcome β} {g : α → Option β} {xs : List α}
    (h : ∀ x ∈ xs, ∃ y, g x = some y ∧ f x = .ok y) : xs.mapM f = .ok (xs.filterMap g) := by
  induction xs with
  | nil => rfl
  | cons x xs ih =>
      obtain ⟨y, hg, hf⟩ := h x (by simp)
      rw [List.mapM_cons, hf, ok_bind, ih (fun z hz => h z (by simp [hz])),
        List.filterMap_cons_some hg]
      rfl

theorem isOk_bind_eq_false {x : Outcome α} {f : α → Outcome β} (h : ∀ a, (f a).isOk = false) :
    (x >>= f).isOk = false := by
  cases x with
  | error e => rfl
  | ok a => exact h a

theorem isOk_bind_iff {x : Outcome α} {f : α → Outcome β} :
    (x >>= f).isOk = true ↔ ∃ a, x = .ok a ∧ (f a).isOk = true := by
  cases x with
  | error e => simp [Except.isOk, Except.toBool]
  | ok a => simp

@[simp] theorem isOk_bind_pure {x : Outcome α} {g : α → β} :
    (x >>= fun a => pure (g a)).isOk = x.isOk := by
  cases x <;> rfl

theorem isOk_mapM_iff {f : α → Outcome β} {xs : List α} :
    (xs.mapM f).isOk = true ↔ ∀ x ∈ xs, (f x).isOk = true := by
  induction xs with
  | nil => simp [Except.isOk, Except.toBool]
  | cons x xs ih =>
    rw [List.mapM_cons, isOk_bind_iff, List.forall_mem_cons]
    constructor
    · rintro ⟨y, hy, h⟩
      obtain ⟨ys, hys, -⟩ := isOk_bind_iff.1 h
      exact ⟨by rw [hy]; rfl, ih.1 (by rw [hys]; rfl)⟩
    · rintro ⟨hx, hxs⟩
      obtain ⟨y, hy⟩ := exists_eq_ok_of_isOk hx
      obtain ⟨ys, hys⟩ := exists_eq_ok_of_isOk (ih.2 hxs)
      exact ⟨y, hy, by rw [hys]; rfl⟩

theorem exists_mapM_eq_ok {f : α → Outcome β} {xs : List α} (h : ∀ x ∈ xs, ∃ y, f x = .ok y) :
    ∃ ys, xs.mapM f = .ok ys := by
  induction xs with
  | nil => exact ⟨[], rfl⟩
  | cons x xs ih =>
      obtain ⟨y, hy⟩ := h x (by simp)
      obtain ⟨ys, hys⟩ := ih (fun z hz => h z (by simp [hz]))
      exact ⟨y :: ys, by rw [List.mapM_cons, hy, ok_bind, hys]; rfl⟩

theorem mapM_eq_ok {f : α → Outcome β} {xs : List α} {ys : List β}
    (h : xs.mapM f = .ok ys) : ys.length = xs.length ∧ ∀ y ∈ ys, ∃ x ∈ xs, f x = .ok y := by
  induction xs generalizing ys with
  | nil =>
      cases h
      simp
  | cons x xs ih =>
      rw [List.mapM_cons] at h
      obtain ⟨y, hy, h⟩ := bind_eq_ok.mp h
      obtain ⟨ys', hys', h⟩ := bind_eq_ok.mp h
      cases h
      obtain ⟨hlen, hmem⟩ := ih hys'
      refine ⟨by simp [hlen], ?_⟩
      intro z hz
      rcases List.mem_cons.mp hz with rfl | hz
      · exact ⟨x, by simp, hy⟩
      · obtain ⟨w, hw, hfw⟩ := hmem z hz
        exact ⟨w, by simp [hw], hfw⟩

theorem mapM_eq_ok_getElem? {f : α → Outcome β} {xs : List α} {ys : List β} (h : xs.mapM f = .ok ys)
    {i : Nat} {y : β} (hy : ys[i]? = some y) : ∃ x, xs[i]? = some x ∧ f x = .ok y := by
  induction xs generalizing ys i with
  | nil =>
      cases h
      simp at hy
  | cons x xs ih =>
      rw [List.mapM_cons] at h
      obtain ⟨y', hy', h⟩ := bind_eq_ok.mp h
      obtain ⟨ys', hys', h⟩ := bind_eq_ok.mp h
      cases h
      cases i with
      | zero =>
          cases hy
          exact ⟨x, rfl, hy'⟩
      | succ i => exact ih hys' hy

theorem foldlM_congr {f g : β → α → Outcome β} {xs : List α} (h : ∀ x ∈ xs, ∀ b, f b x = g b x) (b : β) :
    xs.foldlM f b = xs.foldlM g b := by
  induction xs generalizing b with
  | nil => rfl
  | cons x xs ih =>
      rw [List.foldlM_cons, List.foldlM_cons, h x (by simp)]
      cases g b x with
      | error e => rfl
      | ok b' => exact ih (fun y hy => h y (by simp [hy])) b'

theorem mapM_eq_error_of_mem {f : α → Outcome β} {xs : List α} {x : α} (hx : x ∈ xs) {e : Error}
    (he : f x = .error e) : ∃ e', xs.mapM f = .error e' := by
  induction xs with
  | nil => cases hx
  | cons y ys ih =>
      rw [List.mapM_cons]
      rcases List.mem_cons.mp hx with rfl | hx
      · exact ⟨e, by rw [he]; rfl⟩
      · cases hy : f y with
        | error e' => exact ⟨e', rfl⟩
        | ok b =>
            obtain ⟨e', he'⟩ := ih hx
            exact ⟨e', by rw [Outcome.ok_bind, he']; rfl⟩

theorem exists_mem_of_mapM_eq_error {f : α → Outcome β} {xs : List α} {e : Error}
    (h : xs.mapM f = .error e) : ∃ x ∈ xs, f x = .error e := by
  induction xs with
  | nil => cases h
  | cons x xs ih =>
      rw [List.mapM_cons] at h
      cases hx : f x with
      | error e' =>
          rw [hx, error_bind] at h
          cases h
          exact ⟨x, by simp, hx⟩
      | ok y =>
          rw [hx, ok_bind] at h
          cases hrest : xs.mapM f with
          | error e' =>
              rw [hrest, error_bind] at h
              cases h
              obtain ⟨z, hz, hfz⟩ := ih hrest
              exact ⟨z, by simp [hz], hfz⟩
          | ok ys =>
              rw [hrest] at h
              cases h

theorem mapM_map_eq_ok_map {γ δ : Type} {f : α → Outcome β} {f' : γ → Outcome δ} {g : α → γ}
    {k : β → δ} {xs : List α} {ys : List β}
    (hf : ∀ x ∈ xs, ∀ y, f x = .ok y → f' (g x) = .ok (k y)) (h : xs.mapM f = .ok ys) :
    (xs.map g).mapM f' = .ok (ys.map k) := by
  induction xs generalizing ys with
  | nil =>
      cases h
      rfl
  | cons x xs ih =>
      rw [List.mapM_cons] at h
      obtain ⟨y, hy, h⟩ := bind_eq_ok.mp h
      obtain ⟨ys', hys', h⟩ := bind_eq_ok.mp h
      cases h
      rw [List.map_cons, List.mapM_cons, hf x (by simp) y hy, ok_bind,
        ih (fun z hz => hf z (by simp [hz])) hys']
      rfl

end ColliderML.Outcome
