import Mathlib
import ColliderML.Tensor.Arith
import ColliderML.Tensor.Reshape

/-!
# Entries of arrays by position

An array keeps its entries in row-major order, and the offset of a position
counts the positions before it in that order, so an array built from a
function of positions holds that function's value at every position of its
shape (`Tensor.get_build`). The operations the readers use are built that way,
and each is described here by its entries: slicing the second axis
(`Tensor.index_all_range`), picking a position of the last axis
(`Tensor.index_all_all_pos`), padding the second axis with missing values
(`Tensor.get_padAxis`), and combining two arrays whose shapes broadcast
(`Tensor.zipWith_of_broadcast`), entry by entry when they have one shape
(`Tensor.zipWith_of_shape_eq`).
-/

namespace ColliderML

namespace Shape

def Holds (s : Shape) (pos : List Nat) : Prop := List.Forall₂ (· < ·) pos s

private theorem foldl_offset (l : List (Nat × Nat)) (acc : Nat) :
    l.foldl (fun acc dp => acc * dp.1 + dp.2) acc =
      acc * (l.map Prod.fst).prod + l.foldl (fun acc dp => acc * dp.1 + dp.2) 0 := by
  induction l generalizing acc with
  | nil => simp
  | cons d l ih =>
    simp only [List.foldl_cons, List.map_cons, List.prod_cons, Nat.zero_mul, Nat.zero_add]
    rw [ih, ih d.2]
    ring

theorem size_eq_prod (s : Shape) : s.size = s.prod := by
  induction s with
  | nil => rfl
  | cons n s ih => simp [size, List.foldr_cons, List.prod_cons, ← ih]

@[simp] theorem offset_nil (pos : List Nat) : offset [] pos = 0 := rfl

theorem offset_cons {n i : Nat} {rest : Shape} {ps : List Nat} (h : ps.length = rest.length) :
    offset (n :: rest) (i :: ps) = i * size rest + offset rest ps := by
  unfold offset
  rw [List.zip_cons_cons, List.foldl_cons, foldl_offset, size_eq_prod, List.map_fst_zip (by omega)]
  simp

theorem length_positions (s : Shape) : s.positions.length = s.size := by
  induction s with
  | nil => rfl
  | cons n rest ih =>
    simp only [positions, List.length_flatMap, List.length_map, ih, List.map_const',
      List.length_range, List.sum_replicate, smul_eq_mul]
    rfl

private theorem getElem?_flatMap_range {β : Type} (n k : Nat) (g : Nat → List β)
    (hg : ∀ i, (g i).length = k) {i r : Nat} (hi : i < n) (hr : r < k) :
    ((List.range n).flatMap g)[i * k + r]? = (g i)[r]? := by
  induction n with
  | zero => omega
  | succ n ih =>
    rw [List.range_succ, List.flatMap_append, List.flatMap_singleton]
    have hlen : ((List.range n).flatMap g).length = n * k := by
      simp [List.length_flatMap, hg, List.map_const', List.sum_replicate, Nat.mul_comm]
    rcases Nat.lt_succ_iff_lt_or_eq.mp hi with hi | rfl
    · rw [List.getElem?_append_left (by rw [hlen]; nlinarith), ih hi]
    · rw [List.getElem?_append_right (by omega), hlen, Nat.add_sub_cancel_left]

theorem getElem?_positions_offset {s : Shape} {pos : List Nat} (h : s.Holds pos) :
    s.positions[s.offset pos]? = some pos := by
  induction h with
  | nil => rfl
  | @cons i n ps rest hi hrest ih =>
    have hlen : ps.length = rest.length := hrest.length_eq
    have hlt : offset rest ps < size rest := by
      have := List.getElem?_eq_some_iff.mp ih
      rw [← length_positions]; exact this.1
    rw [offset_cons hlen, positions,
      getElem?_flatMap_range n (size rest) _ (fun _ => by simp [length_positions]) hi hlt]
    simp [ih]

end Shape

/-- An element converted to each element type of a list in turn: what joining
arrays one after another does to the elements joined first. -/
def Scalar.castThrough (ds : List DType) (x : Scalar) : Scalar := ds.foldl (fun x d => Scalar.cast d x) x

theorem Scalar.castThrough_concat (ds : List DType) (d : DType) (x : Scalar) :
    Scalar.castThrough (ds ++ [d]) x = Scalar.cast d (Scalar.castThrough ds x) := by
  simp [Scalar.castThrough]

namespace Tensor

@[simp] theorem shape_build (d : DType) (s : Shape) (f : List Nat → Scalar) : (build d s f).shape = s := rfl

@[simp] theorem dtype_build (d : DType) (s : Shape) (f : List Nat → Scalar) : (build d s f).dtype = d := rfl

theorem holds_two {E n e j : Nat} (he : e < E) (hj : j < n) : Shape.Holds [E, n] [e, j] :=
  .cons he (.cons hj .nil)

theorem get_build {d : DType} {s : Shape} {f : List Nat → Scalar} {pos : List Nat}
    (h : s.Holds pos) : (build d s f).get pos = f pos := by
  simp [get, build, Array.getD_eq_getD_getElem?, Shape.getElem?_positions_offset h]

def element? (t : Tensor) (pos : List Nat) : Option Scalar := t.data[t.shape.offset pos]?

theorem get_of_element? {t : Tensor} {pos : List Nat} {x : Scalar} (h : t.element? pos = some x) :
    t.get pos = x := by
  simp only [element?] at h
  simp [get, Array.getD_eq_getD_getElem?, h]

theorem element?_build {d : DType} {s : Shape} {f : List Nat → Scalar} {pos : List Nat}
    (h : s.Holds pos) : (build d s f).element? pos = some (f pos) := by
  simp [element?, build, Shape.getElem?_positions_offset h]

theorem element?_astype (t : Tensor) (d : DType) (pos : List Nat) :
    (t.astype d).element? pos = if t.dtype = d then t.element? pos else (t.element? pos).map (Scalar.cast d) := by
  by_cases hd : t.dtype = d <;> simp [element?, astype, hd]

private theorem pickSource_keep_all {rest : Shape} {qs : List Nat} (h : rest.Holds qs) :
    pickSource (rest.map fun n => Pick.keep (Array.range n)) qs = qs := by
  induction h with
  | nil => rfl
  | @cons q n qs rest hq _ ih =>
    simp only [List.map_cons, pickSource, ih, List.cons.injEq, and_true]
    simp [hq]

private theorem pickShape_keep_all (rest : Shape) :
    pickShape (rest.map fun n => Pick.keep (Array.range n)) = rest := by
  induction rest with
  | nil => rfl
  | cons n rest ih => simp only [List.map_cons, pickShape, ih, Array.size_range]

theorem sliceRange_ofNat (k a : Nat) (stop : Option Nat) :
    sliceRange k (some a) (stop.map Int.ofNat) = (List.range (min (stop.getD k) k - a)).map (· + a) := by
  have ha : ∀ b : Nat, (if (b : Int) < 0 then max 0 ((b : Int) + k) else min (b : Int) k).toNat = min b k := by
    intro b
    omega
  by_cases hak : a ≤ k
  · cases stop <;> simp [sliceRange, ha, Nat.min_eq_left hak]
  · -- a start past the end selects nothing, as does the stop
    have hnil : min (stop.getD k) k - a = 0 := by omega
    cases stop <;> simp_all [sliceRange] <;> omega

theorem sliceRange_getD (k : Nat) (start stop : Option Int) :
    sliceRange k start stop = sliceRange k (some (start.getD 0)) stop := by
  cases start <;> simp [sliceRange]

theorem index_of_picks {t : Tensor} {ix : List Index} {ps : List Pick}
    (hused : (ix.filter Index.consumes).length ≤ t.ndim) (hps : picks ix t.shape 0 = .ok ps) :
    t.index ix = .ok (build t.dtype (pickShape ps) (fun pos => t.get (pickSource ps pos))) := by
  simp [index, Nat.not_lt.mpr hused, hps]

theorem index_of_picks_error {t : Tensor} {ix : List Index} {e : Error}
    (hused : (ix.filter Index.consumes).length ≤ t.ndim) (hps : picks ix t.shape 0 = .error e) :
    t.index ix = .error e := by
  simp [index, Nat.not_lt.mpr hused, hps]

theorem index_all_range {t : Tensor} {E k : Nat} {rest : Shape} (ht : t.shape = E :: k :: rest)
    {start : Option Int} {a : Nat} (ha : start.getD 0 = a) (stop : Option Nat) :
    ∃ T, t.index [.all, .range start (stop.map Int.ofNat)] = .ok T ∧ T.dtype = t.dtype ∧
      T.shape = E :: (min (stop.getD k) k - a) :: rest ∧
      ∀ e j qs, e < E → j < min (stop.getD k) k - a → rest.Holds qs →
        T.get (e :: j :: qs) = t.get (e :: (a + j) :: qs) := by
  have hrange : sliceRange k start (stop.map Int.ofNat) =
      (List.range (min (stop.getD k) k - a)).map (· + a) := by
    rw [sliceRange_getD, ha, sliceRange_ofNat]
  -- the picks: every event, the slice's positions, then every later position
  let ps := Pick.keep (Array.range E) :: Pick.keep (sliceRange k start (stop.map Int.ofNat)).toArray ::
    rest.map fun n => Pick.keep (Array.range n)
  have hshape : pickShape ps = E :: (min (stop.getD k) k - a) :: rest := by
    simp [ps, pickShape, pickShape_keep_all, hrange]
  refine ⟨build t.dtype (E :: (min (stop.getD k) k - a) :: rest) (fun pos => t.get (pickSource ps pos)),
    ?_, rfl, rfl, fun e j qs he hj hqs => ?_⟩
  · have hpicks : picks [.all, .range start (stop.map Int.ofNat)] t.shape 0 = .ok ps := by
      simp [picks, ps, ht]
    rw [index_of_picks (by simp [ndim, ht, List.filter_cons, Index.consumes]) hpicks, hshape]
  · rw [get_build (.cons he (.cons hj hqs))]
    simp [ps, pickSource, pickSource_keep_all hqs, hrange, he, hj, Nat.add_comm]

theorem index_all_all_pos {t : Tensor} {E n w : Nat} (ht : t.shape = [E, n, w]) {p : Nat} (hp : p < w) :
    ∃ T, t.index [.all, .all, .pos p] = .ok T ∧ T.shape = [E, n] ∧
      ∀ e j, e < E → j < n → T.get [e, j] = t.get [e, j, p] := by
  let ps := [Pick.keep (Array.range E), Pick.keep (Array.range n), Pick.fixed p]
  refine ⟨build t.dtype [E, n] (fun pos => t.get (pickSource ps pos)), ?_, rfl, fun e j he hj => ?_⟩
  · have hpicks : picks [.all, .all, .pos (p : Int)] t.shape 0 = .ok ps := by
      have hlow : ¬(p : Int) < -(w : Int) := by omega
      have hhigh : ¬w ≤ p := by omega
      simp [picks, ps, ht, hlow, hhigh]
    rw [index_of_picks (by simp [ndim, ht, List.filter_cons, Index.consumes]) hpicks]
    simp [ps, pickShape]
  · rw [get_build (holds_two he hj)]
    simp [ps, pickSource, he, hj]

theorem index_all_all_int {t : Tensor} {E n w : Nat} (ht : t.shape = [E, n, w]) {i : Int}
    (hlo : -(w : Int) ≤ i) (hhi : i < w) :
    ∃ T, t.index [.all, .all, .pos i] = .ok T ∧ T.shape = [E, n] ∧
      ∀ e j, e < E → j < n → T.get [e, j] = t.get [e, j, (i % w).toNat] := by
  have hfixed : (if i < 0 then (i + w).toNat else i.toNat) = (i % w).toNat := by
    split
    · rw [Int.emod_eq_add_self_emod, Int.emod_eq_of_lt (by omega) (by omega)]
    · rw [Int.emod_eq_of_lt (by omega) hhi]
  let ps := [Pick.keep (Array.range E), Pick.keep (Array.range n), Pick.fixed (i % w).toNat]
  refine ⟨build t.dtype [E, n] (fun pos => t.get (pickSource ps pos)), ?_, rfl, fun e j he hj => ?_⟩
  · have hpicks : picks [.all, .all, .pos i] t.shape 0 = .ok ps := by
      have hlow : ¬i < -(w : Int) := by omega
      have hhigh : ¬(w : Int) ≤ i := by omega
      simp [picks, ps, ht, hlow, hhigh, hfixed]
    rw [index_of_picks (by simp [ndim, ht, List.filter_cons, Index.consumes]) hpicks]
    simp [ps, pickShape]
  · rw [get_build (holds_two he hj)]
    simp [ps, pickSource, he, hj]

theorem index_all_all_int_error {t : Tensor} {E n w : Nat} (ht : t.shape = [E, n, w]) {i : Int}
    (h : i < -(w : Int) ∨ (w : Int) ≤ i) :
    t.index [.all, .all, .pos i] = .error (.indexBeyondAxis i 2 w) := by
  have hoff : (decide (i < -(w : Int)) || decide ((w : Int) ≤ i)) = true := by
    rcases h with h | h <;> simp [h]
  have hpicks : picks [.all, .all, .pos i] t.shape 0 = .error (.indexBeyondAxis i 2 w) := by
    simp only [ht, picks, Nat.zero_add, Nat.reduceAdd]
    rw [if_pos hoff]
    rfl
  exact index_of_picks_error (by simp [ndim, ht, List.filter_cons, Index.consumes]) hpicks

theorem padAxis_of_lt {t : Tensor} {E len target : Nat} (ht : t.shape = [E, len]) (hlt : len < target) :
    t.padAxis target 1 = { build .float64 [E, target] (fun pos =>
      if pos.getD 1 0 < len then .real (t.get pos).toFloat else .real (0.0 / 0.0)) with optional := true } := by
  have hpad : ¬target ≤ len := by omega
  simp [padAxis, ht, hpad]

theorem get_padAxis {t : Tensor} {E len target : Nat} (ht : t.shape = [E, len]) (hlt : len < target)
    {e j : Nat} (he : e < E) (hj : j < target) :
    (t.padAxis target 1).get [e, j] = if j < len then .real (t.get [e, j]).toFloat else .real (0.0 / 0.0) := by
  rw [padAxis_of_lt ht hlt]
  simp only [get, build] at *
  have hb := get_build (d := .float64) (f := fun pos =>
      if pos.getD 1 0 < len then Scalar.real (t.get pos).toFloat else .real (0.0 / 0.0)) (holds_two he hj)
  simp only [get, build] at hb
  simpa using hb

theorem broadcastShape_self (s : Shape) : broadcastShape s s = some s := by
  have h : ∀ l : Shape, (l.zip l).mapM (fun xy : Nat × Nat =>
      if xy.1 == xy.2 then some xy.1 else if xy.1 == 1 then some xy.2
      else if xy.2 == 1 then some xy.1 else none) = some l := by
    intro l
    induction l with
    | nil => rfl
    | cons n l ih =>
      simp only [List.zip_cons_cons, List.mapM_cons, ih]
      simp
  simpa [broadcastShape] using h s

theorem broadcastSource_self {s : Shape} {pos : List Nat} (h : s.Holds pos) :
    broadcastSource s pos = pos := by
  have hlen : pos.length = s.length := h.length_eq
  simp only [broadcastSource, hlen, Nat.sub_self, List.drop_zero]
  induction h with
  | nil => rfl
  | @cons p n ps rest hp _ ih =>
    simp only [List.zip_cons_cons, List.map_cons, ih (by simpa using hlen)]
    split <;> simp_all

theorem zipWith_of_broadcast {d : DType} {f : Scalar → Scalar → Scalar} {a b : Tensor} {s : Shape}
    (hs : broadcastShape a.shape b.shape = some s) :
    ∃ T, zipWith d f a b = .ok T ∧ T.dtype = d ∧ T.shape = s ∧
      ∀ pos, s.Holds pos →
        T.get pos = f (a.get (broadcastSource a.shape pos)) (b.get (broadcastSource b.shape pos)) := by
  refine ⟨{ build d s (fun pos => f (a.get (broadcastSource a.shape pos))
      (b.get (broadcastSource b.shape pos))) with optional := a.optional || b.optional },
    by simp [zipWith, hs], rfl, rfl, fun pos hpos => ?_⟩
  have hb := get_build (d := d) (f := fun pos => f (a.get (broadcastSource a.shape pos))
      (b.get (broadcastSource b.shape pos))) hpos
  simp only [get, build] at hb ⊢
  exact hb

theorem zipWith_of_shape_eq {d : DType} {f : Scalar → Scalar → Scalar} {a b : Tensor}
    (hab : a.shape = b.shape) :
    ∃ T, zipWith d f a b = .ok T ∧ T.dtype = d ∧ T.shape = a.shape ∧
      ∀ pos, a.shape.Holds pos → T.get pos = f (a.get pos) (b.get pos) := by
  obtain ⟨T, hT, hd, hshape, hget⟩ :=
    zipWith_of_broadcast (d := d) (f := f) (a := a) (b := b) (by rw [← hab]; exact broadcastShape_self a.shape)
  refine ⟨T, hT, hd, hshape, fun pos hpos => ?_⟩
  rw [hget pos hpos, broadcastSource_self hpos, ← hab, broadcastSource_self hpos]

end Tensor

end ColliderML
