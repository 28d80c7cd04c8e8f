import Mathlib
import ColliderML.Dataset.Basic
import ColliderML.Proofs.Outcome
import ColliderML.Proofs.Tensor.Entries

/-!
# Shapes of joined, stacked and merged arrays

What a dataset holds is counted along the first axis of its arrays. Joining two
arrays along that axis succeeds only when their other axes agree, and then adds
their lengths (`appendAlong_zero_eq_ok`); stacking two arrays needs one shape
and puts a new axis of two in front (`stack_pair_eq_ok`); merging inner axes,
converting elements and taking the first row keep what the first axis counts.
-/

namespace ColliderML

namespace Tensor

@[simp] theorem length_ofList (d : DType) (xs : List Scalar) : (ofList d xs).length = xs.length :=
  rfl

@[simp] theorem shape_fill (d : DType) (s : Shape) (x : Scalar) : (fill d s x).shape = s := rfl

@[simp] theorem shape_astype (t : Tensor) (d : DType) : (t.astype d).shape = t.shape := rfl

@[simp] theorem length_astype (t : Tensor) (d : DType) : (t.astype d).length = t.length := rfl

theorem length_eq_of_shape {t : Tensor} {n : Nat} {rest : Shape} (h : t.shape = n :: rest) :
    t.length = n := by
  simp [length, h]

@[simp] theorem dtype_mergeInner (t : Tensor) : t.mergeInner.dtype = t.dtype := by
  unfold mergeInner
  split <;> rfl

@[simp] theorem data_mergeInner (t : Tensor) : t.mergeInner.data = t.data := by
  unfold mergeInner
  split <;> rfl

theorem shape_mergeInner_of_cons {t : Tensor} {n : Nat} {rest : Shape} (h : t.shape = n :: rest) :
    t.mergeInner.shape = [n, Shape.size rest] := by
  simp [mergeInner, h]

theorem mergeInner_mergeInner (t : Tensor) : t.mergeInner.mergeInner = t.mergeInner := by
  rcases h : t.shape with _ | ⟨n, rest⟩
  · simp [mergeInner, h]
  · simp [mergeInner, h, Shape.size]

theorem mergeInner_astype (t : Tensor) (d : DType) : (t.astype d).mergeInner = t.mergeInner.astype d := by
  rcases h : t.shape with _ | ⟨n, rest⟩ <;> simp [mergeInner, astype, h]

theorem length_mergeInner (t : Tensor) : t.mergeInner.length = t.length := by
  rcases h : t.shape with _ | ⟨n, rest⟩
  · simp [mergeInner, h]
  · simp [length, shape_mergeInner_of_cons h, h]

private theorem eq_of_find?_zipIdx {as bs : Shape} {k : Nat} (hk : 1 ≤ k)
    (hlen : as.length = bs.length)
    (h : ((as.zip bs).zipIdx k).find? (fun e => e.2 != 0 && e.1.1 != e.1.2) = none) : as = bs := by
  induction as generalizing bs k with
  | nil => exact (List.length_eq_zero_iff.mp hlen.symm).symm
  | cons x xs ih =>
    cases bs with
    | nil => simp at hlen
    | cons y ys =>
      rw [List.zip_cons_cons, List.zipIdx_cons, List.find?_cons] at h
      have hk0 : (k != 0) = true := by simp; omega
      split at h
      · cases h
      · next hxy =>
        have hx : x = y := by simpa [hk0] using hxy
        rw [hx, ih (by omega) (by simpa using hlen) h]

theorem appendAlong_zero_eq_build {a b r : Tensor} {i : Nat} (h : appendAlong 0 a b i = .ok r) :
    a.shape.tail = b.shape.tail ∧
      r = build (a.dtype.promote b.dtype) ((a.length + b.length) :: a.shape.tail) (fun pos =>
        Scalar.cast (a.dtype.promote b.dtype)
          (if pos.getD 0 0 < a.length then a.get pos else b.get (pos.set 0 (pos.getD 0 0 - a.length)))) := by
  unfold appendAlong at h
  split at h
  · cases h
  · split at h
    · cases h
    · split at h
      · cases h
      · next hzero _ hndim =>
        simp only at h
        split at h
        · cases h
        · next hbad =>
          cases h
          obtain ⟨x, as, hx⟩ : ∃ x as, a.shape = x :: as := by
            cases hs : a.shape with
            | nil => simp [ndim, hs] at hzero
            | cons x as => exact ⟨x, as, rfl⟩
          obtain ⟨y, bs, hy⟩ : ∃ y bs, b.shape = y :: bs := by
            cases hs : b.shape with
            | nil => simp [ndim, hs, hx] at hndim
            | cons y bs => exact ⟨y, bs, rfl⟩
          have hlen : as.length = bs.length := by simpa [ndim, hx, hy] using hndim
          rw [hx, hy, List.zip_cons_cons, List.zipIdx_cons, List.find?_cons] at hbad
          simp only [bne_self_eq_false, Bool.false_and, Nat.zero_add] at hbad
          have htail : as = bs := eq_of_find?_zipIdx (le_refl 1) hlen hbad
          refine ⟨by simp [hx, hy, htail], ?_⟩
          simp [hx, hy, length]

theorem element?_appendAlong_zero {a b r : Tensor} {k j : Nat} {p : List Nat}
    (hr : appendAlong 0 a b k = .ok r) (hj : j < a.length + b.length) (hp : Shape.Holds a.shape.tail p) :
    r.element? (j :: p) = some (Scalar.cast (a.dtype.promote b.dtype)
      (if j < a.length then a.get (j :: p) else b.get ((j - a.length) :: p))) := by
  obtain ⟨-, rfl⟩ := appendAlong_zero_eq_build hr
  rw [element?_build (.cons hj hp)]
  rfl

theorem appendAlong_zero_eq_ok {a b r : Tensor} {i : Nat} (h : appendAlong 0 a b i = .ok r) :
    a.shape.tail = b.shape.tail ∧ r.shape = (a.length + b.length) :: a.shape.tail := by
  obtain ⟨htail, rfl⟩ := appendAlong_zero_eq_build h
  exact ⟨htail, rfl⟩

theorem concatAlong_pair (axis : Nat) (a b : Tensor) :
    concatAlong axis [a, b] = appendAlong axis a b 1 := by
  simp only [concatAlong, List.zipIdx_cons, List.zipIdx_nil, List.foldlM_cons, List.foldlM_nil]
  cases appendAlong axis a b 1 <;> rfl

theorem stack_pair_eq_ok {h w r : Tensor} (hs : stack [h, w] = .ok r) :
    h.shape = w.shape ∧ r.shape = 2 :: h.shape := by
  simp only [stack] at hs
  split at hs
  · next hall =>
    cases hs
    have hw : w.shape = h.shape := by simpa using List.all_eq_true.mp hall w (by simp)
    exact ⟨hw.symm, rfl⟩
  · cases hs

theorem getElem?_rows {t : Tensor} {n i : Nat} {rest : Shape} (ht : t.shape = n :: rest)
    (hi : i < n) : ∃ r, t.rows[i]? = some r ∧ r.shape = rest := by
  simp [rows, ht, hi]

end Tensor

namespace Holding

@[simp] theorem toArray_array (t : Tensor) : (Holding.array t).toArray = .ok t := rfl

theorem toArray_pair_eq_ok {h w r : Tensor} (hr : (Holding.pair h w).toArray = .ok r) :
    h.shape = w.shape ∧ r.shape = 2 :: h.shape := by
  simp only [toArray] at hr
  split at hr
  · exact Tensor.stack_pair_eq_ok hr
  · cases hr

theorem entry_array {t : Tensor} {n i : Nat} {rest : Shape} (ht : t.shape = n :: rest)
    (hi : i < n) : ∃ r, (Holding.array t).entry i = .ok r ∧ r.shape = rest := by
  obtain ⟨r, hr, hshape⟩ := Tensor.getElem?_rows ht hi
  refine ⟨r, ?_, hshape⟩
  simp [entry, Tensor.ndim, ht, hr]

end Holding

theorem Store.length_imageAxis (t : Tensor) : (Store.imageAxis t).length = t.length := by
  unfold Store.imageAxis
  split
  · rfl
  · exact Tensor.length_mergeInner t

@[simp] theorem DType.promote_self (d : DType) : d.promote d = d := by
  cases d <;> rfl

theorem Scalar.cast_int32_idem (s : Scalar) :
    Scalar.cast .int32 (Scalar.cast .int32 s) = Scalar.cast .int32 s := by
  cases s with
  | bool b => cases b <;> rfl
  | int n => simp [Scalar.cast, Scalar.wrap, Int.bmod_bmod]
  | real x => simp [Scalar.cast, Scalar.wrap, Int.bmod_bmod]

theorem cast_targetValue {t : Datum} {x : Scalar} (h : targetValue t = .ok x) :
    Scalar.cast .int32 x = x := by
  obtain ⟨s, rfl⟩ : ∃ s, x = Scalar.cast .int32 s := by
    cases t with
    | int i => cases h; exact ⟨_, rfl⟩
    | bool b => cases h; exact ⟨_, rfl⟩
    | float y => cases h; exact ⟨_, rfl⟩
    | str s =>
      simp only [targetValue] at h
      split at h
      · cases h; exact ⟨_, rfl⟩
      · cases h
    | _ => cases h
  exact Scalar.cast_int32_idem s

theorem targetColumn_eq_ok {target : Datum} {n : Nat} {c : Tensor}
    (h : targetColumn target n = .ok c) :
    c.shape = [n] ∧ c.dtype = .int32 ∧ ∀ k < n, ∃ s, targetValue target = .ok s ∧ c.element? [k] = some s := by
  unfold targetColumn at h
  split at h
  · next hn =>
    cases h
    obtain rfl : n = 0 := beq_iff_eq.mp hn
    exact ⟨rfl, rfl, fun k hk => absurd hk (Nat.not_lt_zero k)⟩
  · obtain ⟨s, hs, h⟩ := Outcome.bind_eq_ok.mp h
    cases h
    refine ⟨rfl, rfl, fun k hk => ⟨s, hs, ?_⟩⟩
    simp [Tensor.element?, Tensor.fill, Shape.offset, Shape.size, hk]

end ColliderML
