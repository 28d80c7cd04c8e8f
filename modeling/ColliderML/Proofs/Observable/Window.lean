import Mathlib
import ColliderML.Proofs.Tensor.Entries
import ColliderML.Observable.Read
import ColliderML.Proofs.Outcome

/-!
# Windows of entries read for an object

An object of one level, single or collective, selects the entries of its
branch from a start to an optional stop. Reading a quantity of each entry, or
the τ values of each entry and their ratios, slices the branch's array and
then pads the slice with missing values up to the length it asks for. The main
result, `Observable.read_window`, says what comes out in every event: exactly
as many entries as the slice asks for, the values of the entries the event has
first, in order, then missing values.
-/

namespace ColliderML

/-- What a read gives for a window of entries: for each of `E` events, as many
entries as the window asks for, those of the entries present holding their
values `v e i`, and the rest missing. -/
structure Window (T : Tensor) (E k a : Nat) (stop : Option Nat) (v : Nat → Nat → Float) : Prop where
  shape : 0 < E → T.shape = [E, stop.getD k - a]
  entry : ∀ e < E, ∀ j < stop.getD k - a,
    (T.get [e, j]).toFloat = if a + j < k then v e (a + j) else 0.0 / 0.0

namespace Observable

theorem padForSlices_single {V : Tensor} {E len : Nat} (hV : V.shape = [E, len]) {start : Option Int}
    {a : Nat} (ha : start.getD 0 = a) (stop : Option Nat) :
    padForSlices V [.range start (stop.map Int.ofNat)] =
      match stop with
      | some b => if 0 < E ∧ len < b - a then V.padAxis (b - a) 1 else V
      | none => V := by
  cases stop with
  | none => rfl
  | some b =>
    have hrows : rowsBefore V 1 = E := by simp [rowsBefore, hV]
    simp only [padForSlices, List.zipIdx_cons, List.zipIdx_nil, List.foldl_cons, List.foldl_nil,
      Option.map_some]
    split_ifs with hc hp hp
    · congr 1
      simp only [Int.ofNat_eq_natCast, ha]
      omega
    · exfalso
      simp [hrows, hV] at hc
      omega
    · exfalso
      apply hc
      simp [hrows, hV]
      omega
    · rfl

theorem window_of_slice {V : Tensor} {E k a : Nat} {start : Option Int} (ha : start.getD 0 = a)
    (stop : Option Nat) (hV : V.shape = [E, min (stop.getD k) k - a]) {v : Nat → Nat → Float}
    (hval : ∀ e < E, ∀ j < min (stop.getD k) k - a, (V.get [e, j]).toFloat = v e (a + j)) :
    Window (padForSlices V [.range start (stop.map Int.ofNat)]) E k a stop v := by
  rw [padForSlices_single hV ha]
  cases stop with
  | none =>
    -- nothing asked for past the end: the entries present, all of them
    refine ⟨fun _ => by simpa using hV, fun e he j hj => ?_⟩
    have hj' : j < min k k - a := by simpa using hj
    rw [if_pos (by omega), hval e he j hj']
  | some b =>
    dsimp only [Option.getD_some] at hV hval ⊢
    by_cases hp : 0 < E ∧ min b k - a < b - a
    · -- short entries: padded up to the window's length
      rw [if_pos hp]
      refine ⟨fun _ => (Tensor.padAxis_of_lt hV hp.2).symm ▸ rfl, fun e he j hj => ?_⟩
      rw [Tensor.get_padAxis hV hp.2 he hj]
      by_cases hjl : j < min b k - a
      · rw [if_pos hjl, if_pos (by omega)]
        exact hval e he j hjl
      · rw [if_neg hjl, if_neg (by omega)]
        rfl
    · -- enough entries, or no event: nothing to pad
      rw [if_neg hp]
      refine ⟨fun hE => ?_, fun e he j hj => ?_⟩
      · rw [hV, Option.getD_some]
        congr 2
        omega
      · rw [Option.getD_some] at hj
        have hjl : j < min b k - a := by omega
        rw [if_pos (by omega), hval e he j hjl]


/-- The array a quantity is read from for every entry of an object's branch,
before the object's slice is taken. -/
def quantitySource (ev : Events) (po : PhysicsObject) (attr : String) : Outcome Tensor := do
  let branch := Text.lower (← branchName po)
  match po with
  | .nested .. => do
    let key ← ev.keyFor branch
    Constituents.component ev key attr
  | _ =>
    match ev.keyFor? (branch ++ "." ++ attr) with
    | some k => ev.array k
    | none => do
      let key ← ev.keyFor branch
      let m ← Momenta.ofBranch ev key false
      m.attr attr

def tauSource (ev : Events) (po : PhysicsObject) : Outcome Tensor := do
  let branch := Text.lower (← branchName po)
  match ev.keyFor? (branch ++ ".tau[5]") with
  | none => throw (.other .badValue "")
  | some k => ev.array k

theorem readQuantity_eq (ev : Events) (po : PhysicsObject) (attr : String) :
    readQuantity ev po attr = (do sliceValue (← quantitySource ev po attr) po.slices) := by
  unfold readQuantity quantitySource
  cases branchName po with
  | error e => rfl
  | ok b =>
    simp only [Outcome.ok_bind]
    cases po with
    | nested main sub => simp only [bind_assoc]
    | _ => cases ev.keyFor? (Text.lower b ++ "." ++ attr) <;> simp only [bind_assoc]

theorem readTau_eq (ev : Events) (po : PhysicsObject) (n : Datum) :
    readTau ev po n = (do
      let arr ← tauSource ev po
      let a ← arr.index [.all, (po.slices.head?.map sliceIndex).getD .all]
      let v ← a.index [.all, .all, ← countIndex n]
      pure (padForSlices v po.slices)) := by
  unfold readTau tauSource
  cases branchName po with
  | error e => rfl
  | ok b =>
    simp only [Outcome.ok_bind]
    cases ev.keyFor? (Text.lower b ++ ".tau[5]") <;> rfl

end Observable

namespace ObservableKind

/-- The kinds read as one quantity per entry of the object's branch: momentum
components, energy, transverse momentum, pseudorapidity, azimuth, mass, charge
and the tags. -/
def perEntry : ObservableKind → Bool
  | .px | .py | .pz | .energy | .pt | .eta | .phi | .mass | .charge | .bTag | .tauTag => true
  | _ => false

end ObservableKind

namespace Observable

variable {ev : Events} {o : Observable} {po : PhysicsObject} {F : Tensor} {E k a : Nat}
  {start : Option Int} {stop : Option Nat}

theorem read_of_perEntry (hk : o.kind.perEntry = true)
    (hsup : o.supported = o.kind.supported.map (·.map ObjectClass.word)) (hpo : o.physicsObject = some po) :
    read ev o = readQuantity ev po (attrName o.kind) := by
  unfold read
  rw [objectOf, hpo, hsup]
  cases h : o.kind <;> simp_all [ObservableKind.perEntry, ObservableKind.supported, ObjectClass.word]

theorem read_of_tau (hk : o.kind = .nSubjettiness ∨ o.kind = .tauN) (hpo : o.physicsObject = some po) :
    read ev o = readTau ev po (countOf o) := by
  unfold read
  rcases hk with hk | hk <;> simp [hk, objectOf, hpo]

theorem read_of_tauRatio (hk : o.kind = .nSubjettinessRatio ∨ o.kind = .tauMN) {m n : Datum}
    (hc : o.counts = .two m n) (hpo : o.physicsObject = some po) :
    read ev o = (do Tensor.arith .div (← readTau ev po m) (← readTau ev po n)) := by
  unfold read
  rcases hk with hk | hk <;> simp [hk, hc, objectOf, hpo]

/-- A subjet count that picks one of the `w` τ values of an entry: an integer from 1 to `w`. -/
def CountPicks (w : Nat) (n : Datum) : Prop := ∃ i : Int, n = .int i ∧ 1 ≤ i ∧ i ≤ w

def countColumn : Datum → Nat
  | .int i => (i - 1).toNat
  | _ => 0

theorem readQuantity_slice {attr : String} (hsrc : quantitySource ev po attr = .ok F)
    (hF : F.shape = [E, k]) (hslices : po.slices = [.range start (stop.map Int.ofNat)])
    (ha : start.getD 0 = a) :
    ∃ V, readQuantity ev po attr = .ok (padForSlices V po.slices) ∧
      V.shape = [E, min (stop.getD k) k - a] ∧
      ∀ e < E, ∀ j < min (stop.getD k) k - a, V.get [e, j] = F.get [e, a + j] := by
  obtain ⟨V, hV, -, hshape, hget⟩ := Tensor.index_all_range hF ha stop
  refine ⟨V, ?_, hshape, fun e he j hj => hget e j [] he hj .nil⟩
  rw [readQuantity_eq, hsrc, Outcome.ok_bind, sliceValue, hslices]
  simp [sliceIndex, hV]

theorem readTau_slice {w : Nat} {n : Datum} (hsrc : tauSource ev po = .ok F) (hF : F.shape = [E, k, w])
    (hn : CountPicks w n) (hslices : po.slices = [.range start (stop.map Int.ofNat)])
    (ha : start.getD 0 = a) :
    ∃ V, readTau ev po n = .ok (padForSlices V po.slices) ∧
      V.shape = [E, min (stop.getD k) k - a] ∧
      ∀ e < E, ∀ j < min (stop.getD k) k - a, V.get [e, j] = F.get [e, a + j, countColumn n] := by
  obtain ⟨i, rfl, hi1, hiw⟩ := hn
  obtain ⟨A, hA, -, hAshape, hAget⟩ := Tensor.index_all_range hF ha stop
  have hp : (i - 1).toNat < w := by omega
  obtain ⟨V, hV, hVshape, hVget⟩ := Tensor.index_all_all_pos hAshape hp
  refine ⟨V, ?_, hVshape, fun e he j hj => ?_⟩
  · have hcount : countIndex (.int i) = .ok (.pos ((i - 1).toNat : Int)) := by
      simp [countIndex]; omega
    rw [readTau_eq, hsrc, Outcome.ok_bind, hslices]
    simp only [List.head?_cons, Option.map_some, Option.getD_some, sliceIndex, hA, hcount,
      Outcome.ok_bind, hV]
    rfl
  · rw [hVget e j he hj, hAget e j [(i - 1).toNat] he hj (.cons hp .nil)]
    rfl

theorem window_of_quotient {Vm Vn : Tensor} {f g : Nat → Nat → Scalar} (ha : start.getD 0 = a)
    (hm : Vm.shape = [E, min (stop.getD k) k - a]) (hn : Vn.shape = [E, min (stop.getD k) k - a])
    (hf : ∀ e < E, ∀ j < min (stop.getD k) k - a, Vm.get [e, j] = f e (a + j))
    (hg : ∀ e < E, ∀ j < min (stop.getD k) k - a, Vn.get [e, j] = g e (a + j)) :
    ∃ T, Tensor.arith .div (padForSlices Vm [.range start (stop.map Int.ofNat)])
      (padForSlices Vn [.range start (stop.map Int.ofNat)]) = .ok T ∧
      Window T E k a stop (fun e i => (Scalar.arith T.dtype .div (f e i) (g e i)).toFloat) := by
  rw [padForSlices_single hm ha, padForSlices_single hn ha]
  -- both slices are padded alike, so they keep one shape and divide entry by entry
  have hquot : ∀ {P Q : Tensor}, P.shape = Q.shape → ∃ T, Tensor.arith .div P Q = .ok T ∧
      T.dtype = ArithOp.resultType .div P.dtype Q.dtype ∧ T.shape = P.shape ∧
        ∀ pos, P.shape.Holds pos → T.get pos = Scalar.arith T.dtype .div (P.get pos) (Q.get pos) := by
    intro P Q hs
    obtain ⟨T, hT, hd, hsh, hget⟩ := Tensor.zipWith_of_shape_eq
      (d := ArithOp.resultType .div P.dtype Q.dtype)
      (f := Scalar.arith (ArithOp.resultType .div P.dtype Q.dtype) .div) hs
    exact ⟨T, hT, hd, hsh, fun pos hpos => by rw [hget pos hpos, hd]⟩
  -- entries present divide as they are
  have hpresent : ∃ T, Tensor.arith .div Vm Vn = .ok T ∧
      (∀ e < E, ∀ j < min (stop.getD k) k - a,
        T.get [e, j] = Scalar.arith T.dtype .div (f e (a + j)) (g e (a + j))) ∧
      T.shape = [E, min (stop.getD k) k - a] := by
    obtain ⟨T, hT, -, hsh, hget⟩ := hquot (hm.trans hn.symm)
    refine ⟨T, hT, fun e he j hj => ?_, hsh.trans hm⟩
    rw [hget [e, j] (hm ▸ Tensor.holds_two he hj), hf e he j hj, hg e he j hj]
  cases stop with
  | none =>
    obtain ⟨T, hT, hget, hsh⟩ := hpresent
    refine ⟨T, hT, fun _ => by simpa using hsh, fun e he j hj => ?_⟩
    have hj' : j < min k k - a := by simpa using hj
    rw [if_pos (show a + j < k by omega), hget e he j hj']
  | some b =>
    dsimp only [Option.getD_some] at hm hn hf hg hpresent ⊢
    by_cases hp : 0 < E ∧ min b k - a < b - a
    · rw [if_pos hp, if_pos hp]
      have hshm := Tensor.padAxis_of_lt hm hp.2
      have hshn := Tensor.padAxis_of_lt hn hp.2
      obtain ⟨T, hT, hd, hsh, hget⟩ :=
        hquot (P := Vm.padAxis (b - a) 1) (Q := Vn.padAxis (b - a) 1) (by rw [hshm, hshn]; rfl)
      -- padded entries are doubles, so the quotient is too
      have hdt : T.dtype = .float64 := by rw [hd, hshm, hshn]; rfl
      refine ⟨T, hT, fun _ => by rw [hsh, hshm]; rfl, fun e he j hj => ?_⟩
      rw [Option.getD_some] at hj
      rw [hget [e, j] (by rw [hshm]; exact Tensor.holds_two he hj), hdt,
        Tensor.get_padAxis hm hp.2 he hj, Tensor.get_padAxis hn hp.2 he hj]
      by_cases hjl : j < min b k - a
      · rw [if_pos hjl, if_pos hjl, if_pos (show a + j < k by omega), hf e he j hjl, hg e he j hjl]
        rfl
      · rw [if_neg hjl, if_neg hjl, if_neg (show ¬a + j < k by omega)]
        show (0.0 / 0.0 : Float) / (0.0 / 0.0) = 0.0 / 0.0
        decide
    · rw [if_neg hp, if_neg hp]
      obtain ⟨T, hT, hget, hsh⟩ := hpresent
      refine ⟨T, hT, fun hE => ?_, fun e he j hj => ?_⟩
      · rw [hsh, Option.getD_some]
        congr 2
        omega
      · rw [Option.getD_some] at hj
        rw [if_pos (show a + j < k by omega), hget e he j (by omega)]

/-- The array an observable read entry by entry takes its values from: the
branch's τ array for n-subjettiness, else the quantity's array. -/
def entrySource (ev : Events) (o : Observable) (po : PhysicsObject) : Outcome Tensor :=
  match o.kind with
  | .nSubjettiness | .tauN | .nSubjettinessRatio | .tauMN => tauSource ev po
  | kind => quantitySource ev po (attrName kind)

/-- The value an observable reads for entry `i` of event `e` of its source
array; a ratio of τ values is divided in element type `t`. -/
def entryValue (o : Observable) (F : Tensor) (t : DType) (e i : Nat) : Float :=
  match o.counts with
  | .none => (F.get [e, i]).toFloat
  | .one n => (F.get [e, i, countColumn n]).toFloat
  | .two m n => (Scalar.arith t .div (F.get [e, i, countColumn m]) (F.get [e, i, countColumn n])).toFloat

/-- An observable read entry by entry from a source array of `E` events of `k`
entries: a quantity of each entry from an array of two axes, or n-subjettiness
from a τ array whose last axis holds the counts asked for. -/
def EntryRead (o : Observable) (F : Tensor) (E k : Nat) : Prop :=
  match o.kind, o.counts with
  | .nSubjettiness, .one n | .tauN, .one n => ∃ w, F.shape = [E, k, w] ∧ CountPicks w n
  | .nSubjettinessRatio, .two m n | .tauMN, .two m n =>
    ∃ w, F.shape = [E, k, w] ∧ CountPicks w m ∧ CountPicks w n
  | kind, .none => kind.perEntry = true ∧ F.shape = [E, k]
  | _, _ => False

theorem EntryRead.of_none {o : Observable} (h : EntryRead o F E k) (hc : o.counts = .none) :
    o.kind.perEntry = true ∧ F.shape = [E, k] := by
  unfold EntryRead at h
  rw [hc] at h
  cases hk : o.kind <;> simp_all

theorem EntryRead.of_one {o : Observable} {n : Datum} (h : EntryRead o F E k) (hc : o.counts = .one n) :
    (o.kind = .nSubjettiness ∨ o.kind = .tauN) ∧ ∃ w, F.shape = [E, k, w] ∧ CountPicks w n := by
  unfold EntryRead at h
  rw [hc] at h
  cases hk : o.kind <;> simp_all

theorem EntryRead.of_two {o : Observable} {m n : Datum} (h : EntryRead o F E k)
    (hc : o.counts = .two m n) :
    (o.kind = .nSubjettinessRatio ∨ o.kind = .tauMN) ∧
      ∃ w, F.shape = [E, k, w] ∧ CountPicks w m ∧ CountPicks w n := by
  unfold EntryRead at h
  rw [hc] at h
  cases hk : o.kind <;> simp_all

/-- Reading an observable of an entry-by-entry kind for a single or collective
object gives, in every event, exactly as many entries as the object's slice
asks for: the values of the entries the slice covers that the event has, then
missing values. Without an upper bound the slice asks for every entry from its
start on, and nothing is padded. -/
theorem read_window {o : Observable}
    (hsup : o.supported = o.kind.supported.map (·.map ObjectClass.word))
    (hpo : o.physicsObject = some po) (hslices : po.slices = [.range start (stop.map Int.ofNat)])
    (ha : start.getD 0 = a) (hsrc : entrySource ev o po = .ok F) (hread : EntryRead o F E k) :
    ∃ T, read ev o = .ok T ∧ Window T E k a stop (entryValue o F T.dtype) := by
  cases hc : o.counts with
  | none =>
    -- a quantity of each entry
    obtain ⟨hper, hF⟩ := hread.of_none hc
    have hq : quantitySource ev po (attrName o.kind) = .ok F := by
      cases hk : o.kind <;> simp_all [entrySource, ObservableKind.perEntry]
    obtain ⟨V, hV, hVshape, hVget⟩ := readQuantity_slice hq hF hslices ha
    refine ⟨_, by rw [read_of_perEntry hper hsup hpo, hV], ?_⟩
    rw [hslices]
    exact window_of_slice ha stop hVshape fun e he j hj => by
      rw [hVget e he j hj]; simp [entryValue, hc]
  | one n =>
    -- τ_n: a column of the τ array
    obtain ⟨hkind, w, hF, hn⟩ := hread.of_one hc
    have htau : tauSource ev po = .ok F := by
      rcases hkind with h | h <;> simpa [entrySource, h] using hsrc
    obtain ⟨V, hV, hVshape, hVget⟩ := readTau_slice htau hF hn hslices ha
    refine ⟨_, by rw [read_of_tau hkind hpo, countOf, hc, hV], ?_⟩
    rw [hslices]
    exact window_of_slice ha stop hVshape fun e he j hj => by
      rw [hVget e he j hj]; simp [entryValue, hc]
  | two m n =>
    -- τ_m/τ_n: the quotient of two columns
    obtain ⟨hkind, w, hF, hm, hn⟩ := hread.of_two hc
    have htau : tauSource ev po = .ok F := by
      rcases hkind with h | h <;> simpa [entrySource, h] using hsrc
    obtain ⟨Vm, hVm, hmshape, hmget⟩ := readTau_slice htau hF hm hslices ha
    obtain ⟨Vn, hVn, hnshape, hnget⟩ := readTau_slice htau hF hn hslices ha
    obtain ⟨T, hT, hw⟩ := window_of_quotient (f := fun e i => F.get [e, i, countColumn m])
      (g := fun e i => F.get [e, i, countColumn n]) ha hmshape hnshape hmget hnget
    refine ⟨T, by rw [read_of_tauRatio hkind hc hpo, hVm, hVn, hslices]; simpa using hT, ?_⟩
    have hval : entryValue o F T.dtype = fun e i =>
        (Scalar.arith T.dtype .div (F.get [e, i, countColumn m]) (F.get [e, i, countColumn n])).toFloat := by
      funext e i
      simp [entryValue, hc]
    rw [hval]
    exact hw

def secondThirdJetPt : Observable :=
  { kind := .pt, physicsObject := some (.collective "Jet" (some 1) (some 3)), className := .str "Pt",
    supported := some ["single", "collective", "nested"], counts := .none }

def twoJetPts : Tensor := { dtype := .int32, shape := [1, 2], data := #[.int 50, .int 30] }

/-- An event with two jets, read for the second and third: the second jet's
momentum, then a missing value for the third. -/
theorem read_window_secondThirdJet :
    entrySource ⟨[("Jet.PT", twoJetPts)]⟩ secondThirdJetPt (.collective "Jet" (some 1) (some 3)) =
        .ok twoJetPts ∧ EntryRead secondThirdJetPt twoJetPts 1 2 ∧
      ∃ T, read ⟨[("Jet.PT", twoJetPts)]⟩ secondThirdJetPt = .ok T ∧
        Window T 1 2 1 (some 3) (entryValue secondThirdJetPt twoJetPts T.dtype) :=
  ⟨rfl, ⟨rfl, rfl⟩,
    read_window (by decide +kernel) rfl rfl rfl rfl ⟨rfl, rfl⟩⟩

end Observable

end ColliderML
