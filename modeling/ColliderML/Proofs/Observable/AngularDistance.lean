import Mathlib
import ColliderML.Observable.Read
import ColliderML.Proofs.Outcome
import ColliderML.Proofs.Tensor.Entries

/-!
# The angular distance of two objects

Reading the angular distance of two objects pairs, event by event, entry `i`
of the first with entry `j` of the second: one array holds a column per entry
of the first object and the other a row per entry of the second, and the
difference of the two broadcasts into a grid. The value of a pair is the
square root of the squared difference of the pseudorapidities plus the squared
difference of the azimuths, in the element type the differences promote to
(`Observable.pairDistance`).

The azimuths are subtracted as they are. Two objects on either side of the
seam at `±π` are as far apart as their raw difference says, not as the short
way round the cylinder: the reading is neither periodic in azimuth nor the
distance on the cylinder (`Observable.read_angularDistance_pairs`).
-/

namespace ColliderML

namespace Tensor

theorem index_column {t : Tensor} {E n : Nat} (ht : t.shape = [E, n]) :
    ∃ T, t.index [.all, .all, .newAxis] = .ok T ∧ T.dtype = t.dtype ∧ T.shape = [E, n, 1] ∧
      ∀ e i, e < E → i < n → T.get [e, i, 0] = t.get [e, i] := by
  let ps := [Pick.keep (Array.range E), Pick.keep (Array.range n), Pick.fresh]
  refine ⟨build t.dtype [E, n, 1] (fun pos => t.get (pickSource ps pos)), ?_, rfl, rfl,
    fun e i he hi => ?_⟩
  · have hpicks : picks [.all, .all, .newAxis] t.shape 0 = .ok ps := by
      simp [picks, ps, ht]
    rw [index_of_picks (by simp [ndim, ht, List.filter_cons, Index.consumes]) hpicks]
    simp [ps, pickShape]
  · rw [get_build (.cons he (.cons hi (.cons Nat.one_pos .nil)))]
    simp [ps, pickSource, he, hi]

theorem index_row {t : Tensor} {E m : Nat} (ht : t.shape = [E, m]) :
    ∃ T, t.index [.all, .newAxis, .all] = .ok T ∧ T.dtype = t.dtype ∧ T.shape = [E, 1, m] ∧
      ∀ e j, e < E → j < m → T.get [e, 0, j] = t.get [e, j] := by
  let ps := [Pick.keep (Array.range E), Pick.fresh, Pick.keep (Array.range m)]
  refine ⟨build t.dtype [E, 1, m] (fun pos => t.get (pickSource ps pos)), ?_, rfl, rfl,
    fun e j he hj => ?_⟩
  · have hpicks : picks [.all, .newAxis, .all] t.shape 0 = .ok ps := by
      simp [picks, ps, ht]
    rw [index_of_picks (by simp [ndim, ht, List.filter_cons, Index.consumes]) hpicks]
    simp [ps, pickShape]
  · rw [get_build (.cons he (.cons Nat.one_pos (.cons hj .nil)))]
    simp [ps, pickSource, he, hj]

theorem broadcastShape_grid (E n m : Nat) :
    broadcastShape [E, n, 1] [E, 1, m] = some [E, n, m] := by
  by_cases hn : n = 1 <;> by_cases hm : m = 1 <;> simp [broadcastShape, hn, hm, @eq_comm _ 1 m]

theorem broadcastSource_column_of_lt {E n e i j : Nat} (he : e < E) (hi : i < n) :
    broadcastSource [E, n, 1] [e, i, j] = [e, i, 0] := by
  have hE : (if E = 1 then 0 else e) = e := by split <;> omega
  have hn : (if n = 1 then 0 else i) = i := by split <;> omega
  simp [broadcastSource, hE, hn]

theorem broadcastSource_row_of_lt {E m e i j : Nat} (he : e < E) (hj : j < m) :
    broadcastSource [E, 1, m] [e, i, j] = [e, 0, j] := by
  have hE : (if E = 1 then 0 else e) = e := by split <;> omega
  have hm : (if m = 1 then 0 else j) = j := by split <;> omega
  simp [broadcastSource, hE, hm]

theorem arith_of_shape_eq (op : ArithOp) {a b : Tensor} (hab : a.shape = b.shape) :
    ∃ T, arith op a b = .ok T ∧ T.dtype = op.resultType a.dtype b.dtype ∧ T.shape = a.shape ∧
      ∀ pos, a.shape.Holds pos → T.get pos = Scalar.arith T.dtype op (a.get pos) (b.get pos) := by
  obtain ⟨T, hT, hd, hshape, hget⟩ := zipWith_of_shape_eq
    (d := op.resultType a.dtype b.dtype) (f := Scalar.arith (op.resultType a.dtype b.dtype) op) hab
  exact ⟨T, hT, hd, hshape, fun pos hpos => by rw [hget pos hpos, hd]⟩

theorem offset_lt_size_of_zipWith {d : DType} {f : Scalar → Scalar → Scalar} {a b T : Tensor}
    (h : zipWith d f a b = .ok T) {pos : List Nat} (hpos : T.shape.Holds pos) :
    T.shape.offset pos < T.data.size := by
  unfold zipWith at h
  split at h
  · cases h
  · cases h
    have hlt := (List.getElem?_eq_some_iff.mp (Shape.getElem?_positions_offset hpos)).1
    simpa [build] using hlt

theorem get_map {t : Tensor} {d : DType} {f : Scalar → Scalar} {pos : List Nat}
    (h : t.shape.offset pos < t.data.size) : (t.map d f).get pos = f (t.get pos) := by
  simp [map, get, Array.getD_eq_getD_getElem?, h]

end Tensor

namespace Observable

open Tensor

theorem pairDifferences_grid {a b : Tensor} {E n m : Nat} (ha : a.shape = [E, n])
    (hb : b.shape = [E, m]) :
    ∃ D, pairDifferences a b = .ok D ∧ D.dtype = ArithOp.resultType .sub a.dtype b.dtype ∧
      D.shape = [E, n, m] ∧ ∀ e i j, e < E → i < n → j < m →
        D.get [e, i, j] = Scalar.arith D.dtype .sub (a.get [e, i]) (b.get [e, j]) := by
  obtain ⟨x, hx, hxd, hxs, hxget⟩ := index_column ha
  obtain ⟨y, hy, hyd, hys, hyget⟩ := index_row hb
  obtain ⟨D, hD, hDd, hDs, hDget⟩ := zipWith_of_broadcast (a := x) (b := y)
    (d := ArithOp.resultType .sub x.dtype y.dtype)
    (f := Scalar.arith (ArithOp.resultType .sub x.dtype y.dtype) .sub)
    (by rw [hxs, hys]; exact broadcastShape_grid E n m)
  refine ⟨D, ?_, by rw [hDd, hxd, hyd], hDs, fun e i j he hi hj => ?_⟩
  · rw [pairDifferences, hx, Outcome.ok_bind, hy, Outcome.ok_bind]
    exact hD
  · rw [hDget _ (.cons he (.cons hi (.cons hj .nil))), hxs, hys, broadcastSource_column_of_lt he hi,
      broadcastSource_row_of_lt he hj, hxget e i he hi, hyget e j he hj, hDd]

/-- The angular distance of one pair as the reading computes it: the differences
of the pseudorapidities and of the azimuths in the types `tη` and `tφ` that the
two objects' arrays promote to, squared, summed and rooted, each step in its
own element type. The azimuths are subtracted as they are. -/
def pairDistance (tη tφ : DType) (η₀ η₁ φ₀ φ₁ : Scalar) : Scalar :=
  let sη := ArithOp.resultType .mul tη tη
  let sφ := ArithOp.resultType .mul tφ tφ
  let t := ArithOp.resultType .add sη sφ
  let dη := Scalar.arith tη .sub η₀ η₁
  let dφ := Scalar.arith tφ .sub φ₀ φ₁
  let s := Scalar.arith t .add (Scalar.arith sη .mul dη dη) (Scalar.arith sφ .mul dφ dφ)
  .real (if realType t = .float32 then Single.sqrt s.toFloat else Float.sqrt s.toFloat)

@[simp] theorem pairDistance_float64 (η₀ η₁ φ₀ φ₁ : Float) :
    pairDistance .float64 .float64 (.real η₀) (.real η₁) (.real φ₀) (.real φ₁) =
      .real (Float.sqrt ((η₀ - η₁) * (η₀ - η₁) + (φ₀ - φ₁) * (φ₀ - φ₁))) := rfl

section Reading

variable {ev : Events} {a b : PhysicsObject} {η₀ φ₀ η₁ φ₁ : Tensor} {E n m : Nat}

theorem readAngular_grid
    (hη₀ : readQuantity ev a "eta" = .ok η₀) (hφ₀ : readQuantity ev a "phi" = .ok φ₀)
    (hη₁ : readQuantity ev b "eta" = .ok η₁) (hφ₁ : readQuantity ev b "phi" = .ok φ₁)
    (hs₀ : η₀.shape = [E, n] ∧ φ₀.shape = [E, n]) (hs₁ : η₁.shape = [E, m] ∧ φ₁.shape = [E, m]) :
    ∃ T, readAngular ev a b = .ok T ∧ T.shape = [E, n, m] ∧ ∀ e i j, e < E → i < n → j < m →
      T.get [e, i, j] = pairDistance (ArithOp.resultType .sub η₀.dtype η₁.dtype)
        (ArithOp.resultType .sub φ₀.dtype φ₁.dtype) (η₀.get [e, i]) (η₁.get [e, j])
        (φ₀.get [e, i]) (φ₁.get [e, j]) := by
  obtain ⟨hη₀s, hφ₀s⟩ := hs₀
  obtain ⟨hη₁s, hφ₁s⟩ := hs₁
  obtain ⟨dη, hdη, hdηd, hdηs, hdηget⟩ := pairDifferences_grid hη₀s hη₁s
  obtain ⟨dφ, hdφ, hdφd, hdφs, hdφget⟩ := pairDifferences_grid hφ₀s hφ₁s
  obtain ⟨qη, hqη, hqηd, hqηs, hqηget⟩ := arith_of_shape_eq .mul (a := dη) (b := dη) rfl
  obtain ⟨qφ, hqφ, hqφd, hqφs, hqφget⟩ := arith_of_shape_eq .mul (a := dφ) (b := dφ) rfl
  obtain ⟨q, hq, hqd, hqs, hqget⟩ := arith_of_shape_eq .add (a := qη) (b := qφ)
    (by rw [hqηs, hqφs, hdηs, hdφs])
  refine ⟨q.sqrt, ?_, by simp [sqrt, mapReal, map, hqs, hqηs, hdηs], fun e i j he hi hj => ?_⟩
  · -- arrays of two axes are not merged
    simp [readAngular, hη₀, hφ₀, hη₁, hφ₁, ndim, hη₀s, hφ₀s, hη₁s, hφ₁s, hdη, hdφ, square,
      hqη, hqφ, hq]
  · have hpos : Shape.Holds [E, n, m] [e, i, j] := .cons he (.cons hi (.cons hj .nil))
    rw [sqrt, mapReal, get_map (offset_lt_size_of_zipWith hq (by rwa [hqs, hqηs, hdηs])),
      hqget _ (by rwa [hqηs, hdηs]), hqηget _ (by rwa [hdηs]), hqφget _ (by rwa [hdφs]),
      hdηget e i j he hi hj, hdφget e i j he hi hj, hqd, hqηd, hqφd, hdηd, hdφd]
    rfl

theorem read_of_angularDistance {o : Observable} (hk : o.kind = .angularDistance)
    (ho : o.physicsObject = some (.multiple [a, b])) : read ev o = readAngular ev a b := by
  unfold read
  rw [hk]
  simp [objectOf, ho]

/-- The angular distance of two objects, read from arrays of two axes, holds at
`[e, i, j]` the distance of entry `i` of the first object to entry `j` of the
second in event `e`, the azimuths subtracted without reduction modulo `2π`. -/
theorem read_angularDistance_pairs {o : Observable} (hk : o.kind = .angularDistance)
    (ho : o.physicsObject = some (.multiple [a, b]))
    (hη₀ : readQuantity ev a "eta" = .ok η₀) (hφ₀ : readQuantity ev a "phi" = .ok φ₀)
    (hη₁ : readQuantity ev b "eta" = .ok η₁) (hφ₁ : readQuantity ev b "phi" = .ok φ₁)
    (hs₀ : η₀.shape = [E, n] ∧ φ₀.shape = [E, n]) (hs₁ : η₁.shape = [E, m] ∧ φ₁.shape = [E, m]) :
    ∃ T, read ev o = .ok T ∧ T.shape = [E, n, m] ∧ ∀ e i j, e < E → i < n → j < m →
      T.get [e, i, j] = pairDistance (ArithOp.resultType .sub η₀.dtype η₁.dtype)
        (ArithOp.resultType .sub φ₀.dtype φ₁.dtype) (η₀.get [e, i]) (η₁.get [e, j])
        (φ₀.get [e, i]) (φ₁.get [e, j]) := by
  rw [read_of_angularDistance hk ho]
  exact readAngular_grid hη₀ hφ₀ hη₁ hφ₁ hs₀ hs₁

end Reading

/-- One event with a jet at azimuth `3` and a muon at azimuth `φ`, both at
pseudorapidity `0`, as doubles. -/
def jetMuonEvents (φ : Float) : Events :=
  let entry := fun x => ({ dtype := .float64, shape := [1, 1], data := #[.real x] } : Tensor)
  ⟨[("Jet.Eta", entry 0), ("Jet.Phi", entry 3), ("Muon.Eta", entry 0), ("Muon.Phi", entry φ)]⟩

def jetMuonDistance : Observable :=
  { kind := .angularDistance, physicsObject := some (.multiple [.single "jet" 0, .single "muon" 0]),
    className := .str "DeltaR", supported := none, counts := .none }

theorem read_angularDistance_pairs_seam :
    ∃ T, read (jetMuonEvents (-3)) jetMuonDistance = .ok T ∧ T.shape = [1, 1, 1] := by
  have view : ∀ p q,
      (readQuantity (jetMuonEvents (-3)) p q).toOption.map Tensor.shape = some [1, 1] →
      ∃ t, readQuantity (jetMuonEvents (-3)) p q = .ok t ∧ t.shape = [1, 1] := fun _ _ h =>
    Outcome.exists_eq_ok_of_view h
  obtain ⟨η₀, hη₀, hη₀s⟩ := view (.single "jet" 0) "eta" (by decide +kernel)
  obtain ⟨φ₀, hφ₀, hφ₀s⟩ := view (.single "jet" 0) "phi" (by decide +kernel)
  obtain ⟨η₁, hη₁, hη₁s⟩ := view (.single "muon" 0) "eta" (by decide +kernel)
  obtain ⟨φ₁, hφ₁, hφ₁s⟩ := view (.single "muon" 0) "phi" (by decide +kernel)
  obtain ⟨T, hT, hTs, -⟩ := read_angularDistance_pairs (o := jetMuonDistance) rfl rfl
    hη₀ hφ₀ hη₁ hφ₁ ⟨hη₀s, hφ₀s⟩ ⟨hη₁s, hφ₁s⟩
  exact ⟨T, hT, hTs⟩

/-- A jet and a muon on either side of the seam are `6` apart, not `2π - 6`,
and moving the muon by a full turn brings them to `2π - 6`: the reading is not
periodic in azimuth. -/
theorem angularDistance_not_periodic_in_azimuth :
    ((read (jetMuonEvents (-3)) jetMuonDistance).toOption.map fun T =>
      (T.shape, (T.get [0, 0, 0]).toFloat == 6)) = some ([1, 1, 1], true) ∧
    ((read (jetMuonEvents (-3 + 2 * 3.141592653589793)) jetMuonDistance).toOption.map fun T =>
      decide ((T.get [0, 0, 0]).toFloat < 0.3)) = some true := by
  decide +kernel

end Observable

end ColliderML
