import Mathlib
import ColliderML.Representation.Set
import ColliderML.Proofs.Text.Split
import ColliderML.Proofs.Tensor.Entries
import ColliderML.Proofs.Outcome

/-!
# The columns of a set of observables

Reading a set reads its members in order. A member whose value has one column,
or one entry per event along two more axes, gives that column; a member whose
value has another shape gives again the block of the member before it, and
reading fails when it is the first. The blocks are then joined side by side.

So a read set has one column per member, and a column holds its member's
values exactly when that member's value has one of the two shapes; otherwise
it repeats the column before it (`ObservableSet.read_carries_columns`). Reading
fails with a `ValueError`, with the error of reading a member, or with an
unbound name when the first member's value has another shape.
-/

namespace ColliderML

theorem toString_eq_one_iff {k : Nat} : toString k = "1" ↔ k = 1 :=
  Nat.repr_inj (n := 1)

theorem lengthsOf_eq_shape (v : Tensor) : Observable.lengthsOf v = v.shape.map toString := by
  have hdigits : ∀ n : Nat, ' ' ∉ (toString n).toList := by
    intro n hn
    simp only [toString, Nat.repr_eq_ofList_toDigits, String.toList_ofList] at hn
    have := Nat.isDigit_of_mem_toDigits (by decide) (by decide) hn
    simp at this
  have hname : ' ' ∉ ((if v.optional then "?" else "") ++ v.dtype.name).toList := by
    cases v.optional <;> cases v.dtype <;> decide
  rw [Observable.lengthsOf, Tensor.typeText,
    Text.splitOn_intercalate_of_head (show (" * " : String).toList = [' ', '*', ' '] from rfl)
      (by simp)]
  · simp
  · intro p hp
    simp only [List.mem_append, List.mem_map, List.mem_singleton] at hp
    rcases hp with ⟨n, -, rfl⟩ | rfl
    · exact hdigits n
    · exact hname

/-! ## Joining columns -/

namespace Tensor

variable {a b : Tensor} {E k : Nat}

theorem appendAlong_column (ha : a.shape = [E, k]) (hb : b.shape = [E, 1]) (i : Nat) :
    ∃ r, appendAlong 1 a b i = .ok r ∧ r.shape = [E, k + 1] ∧
      ∀ e < E, (∀ j < k, r.get [e, j] = Scalar.cast r.dtype (a.get [e, j])) ∧
        r.get [e, k] = Scalar.cast r.dtype (b.get [e, 0]) := by
  let d := DType.promote a.dtype b.dtype
  refine ⟨build d [E, k + 1] (fun pos => Scalar.cast d
      (if pos.getD 1 0 < k then a.get pos else b.get (pos.set 1 (pos.getD 1 0 - k)))),
    ?_, rfl, fun e he => ⟨fun j hj => ?_, ?_⟩⟩
  · unfold appendAlong
    simp [ndim, ha, hb, d]
  · rw [get_build (holds_two he (by simp; omega))]
    simp [hj]
  · rw [get_build (holds_two he (by simp))]
    simp

theorem appendAlong_column_of_ne {E' : Nat} (ha : a.shape = [E, k]) (hb : b.shape = [E', 1]) (hne : E' ≠ E)
    (i : Nat) : ∃ msg, appendAlong 1 a b i = .error (.other .badValue msg) := by
  unfold appendAlong
  simp [ndim, ha, hb, Ne.symm hne]

theorem foldlM_append_columns {ps : List (Tensor × Nat)} (hps : ∀ p ∈ ps, ∃ E', p.1.shape = [E', 1])
    {acc r : Tensor} (hacc : acc.shape = [E, k])
    (h : ps.foldlM (fun acc p => appendAlong 1 acc p.1 p.2) acc = .ok r) :
    r.shape = [E, k + ps.length] ∧ (∀ p ∈ ps, p.1.shape = [E, 1]) ∧
      ∀ e < E, (∀ j < k, ∃ ds, r.get [e, j] = Scalar.castThrough ds (acc.get [e, j])) ∧
        ∀ j p, ps[j]? = some p → ∃ ds, r.get [e, k + j] = Scalar.castThrough ds (p.1.get [e, 0]) := by
  induction ps generalizing acc k with
  | nil =>
    cases h
    exact ⟨hacc, by simp, fun e _ => ⟨fun j _ => ⟨[], rfl⟩, by simp⟩⟩
  | cons p ps ih =>
    rw [List.foldlM_cons] at h
    obtain ⟨a', hstep, hrest⟩ := Outcome.bind_eq_ok.mp h
    obtain ⟨E', hp⟩ := hps p (by simp)
    -- the column joins only with as many events
    have hE : E' = E := by
      by_contra hne
      obtain ⟨msg, hmsg⟩ := appendAlong_column_of_ne hacc hp hne p.2
      rw [hmsg] at hstep
      cases hstep
    subst hE
    obtain ⟨a'', happ, hshape, hget⟩ := appendAlong_column hacc hp p.2
    have ha' : a' = a'' := by
      rw [happ] at hstep
      exact (Except.ok.inj hstep).symm
    rw [← ha'] at hshape hget
    obtain ⟨hr, hcols, hentries⟩ := ih (fun q hq => hps q (by simp [hq])) hshape hrest
    refine ⟨by rw [hr]; simp; omega, ?_, fun e he => ⟨fun j hj => ?_, fun j q hq => ?_⟩⟩
    · intro q hq
      rcases List.mem_cons.mp hq with rfl | hq
      · exact hp
      · exact hcols q hq
    · obtain ⟨ds, hds⟩ := (hentries e he).1 j (by omega)
      refine ⟨a'.dtype :: ds, ?_⟩
      rw [hds, (hget e he).1 j hj]
      rfl
    · cases j with
      | zero =>
        cases hq
        obtain ⟨ds, hds⟩ := (hentries e he).1 k (by omega)
        refine ⟨a'.dtype :: ds, ?_⟩
        rw [Nat.add_zero, hds, (hget e he).2]
        rfl
      | succ j =>
        obtain ⟨ds, hds⟩ := (hentries e he).2 j q (by simpa using hq)
        rw [show k + (j + 1) = k + 1 + j by omega]
        exact ⟨ds, hds⟩

theorem foldlM_append_columns_error {ps : List (Tensor × Nat)} (hps : ∀ p ∈ ps, ∃ E', p.1.shape = [E', 1])
    {acc : Tensor} (hacc : acc.shape = [E, k]) {err : Error}
    (h : ps.foldlM (fun acc p => appendAlong 1 acc p.1 p.2) acc = .error err) : err.kind = .badValue := by
  induction ps generalizing acc k with
  | nil => cases h
  | cons p ps ih =>
    rw [List.foldlM_cons] at h
    obtain ⟨E', hp⟩ := hps p (by simp)
    by_cases hE : E' = E
    · subst hE
      obtain ⟨a', happ, hshape, -⟩ := appendAlong_column hacc hp p.2
      rw [happ, Outcome.ok_bind] at h
      exact ih (fun q hq => hps q (by simp [hq])) hshape h
    · obtain ⟨msg, hmsg⟩ := appendAlong_column_of_ne hacc hp hE p.2
      rw [hmsg, Outcome.error_bind] at h
      cases h
      rfl

theorem foldlM_append_columns_isOk {ps : List (Tensor × Nat)} (hps : ∀ p ∈ ps, p.1.shape = [E, 1])
    {acc : Tensor} (hacc : acc.shape = [E, k]) :
    ∃ r, ps.foldlM (fun acc p => appendAlong 1 acc p.1 p.2) acc = .ok r := by
  induction ps generalizing acc k with
  | nil => exact ⟨acc, rfl⟩
  | cons p ps ih =>
    obtain ⟨a', happ, hshape, -⟩ := appendAlong_column hacc (hps p (by simp)) p.2
    rw [List.foldlM_cons, happ, Outcome.ok_bind]
    exact ih (fun q hq => hps q (by simp [hq])) hshape

theorem concat1_columns {bs : List Tensor} (hbs : ∀ b ∈ bs, ∃ E', b.shape = [E', 1]) {T : Tensor}
    (h : concat1 bs = .ok T) :
    ∃ E, T.shape = [E, bs.length] ∧ (∀ b ∈ bs, b.shape = [E, 1]) ∧
      ∀ j B, bs[j]? = some B → ∀ e < E, ∃ ds, T.get [e, j] = Scalar.castThrough ds (B.get [e, 0]) := by
  cases bs with
  | nil => cases h
  | cons t rest =>
    obtain ⟨E, ht⟩ := hbs t (by simp)
    have hps : ∀ p ∈ rest.zipIdx 1, ∃ E', p.1.shape = [E', 1] :=
      fun p hp => hbs p.1 (by simp [List.fst_mem_of_mem_zipIdx hp])
    obtain ⟨hT, hcols, hentries⟩ := foldlM_append_columns hps ht h
    refine ⟨E, by simpa [Nat.add_comm] using hT, ?_, fun j B hB e he => ?_⟩
    · intro b hb
      rcases List.mem_cons.mp hb with rfl | hb
      · exact ht
      · obtain ⟨i, hi, rfl⟩ := List.mem_iff_getElem.mp hb
        simpa using hcols (rest[i], 1 + i) (List.mem_iff_getElem.mpr ⟨i, by simpa using hi, by simp⟩)
    · cases j with
      | zero =>
        cases hB
        exact (hentries e he).1 0 (by decide)
      | succ j =>
        rw [Nat.add_comm]
        exact (hentries e he).2 j (B, 1 + j) (by simpa [List.getElem?_zipIdx] using hB)

theorem concat1_columns_error {bs : List Tensor} (hbs : ∀ b ∈ bs, ∃ E', b.shape = [E', 1]) {err : Error}
    (h : concat1 bs = .error err) : err.kind = .badValue := by
  cases bs with
  | nil =>
    cases h
    rfl
  | cons t rest =>
    obtain ⟨E, ht⟩ := hbs t (by simp)
    exact foldlM_append_columns_error (fun p hp => hbs p.1 (by simp [List.fst_mem_of_mem_zipIdx hp])) ht h

theorem concat1_columns_isOk {bs : List Tensor} (hne : bs ≠ []) (hbs : ∀ b ∈ bs, b.shape = [E, 1]) :
    ∃ T, concat1 bs = .ok T := by
  cases bs with
  | nil => exact absurd rfl hne
  | cons t rest =>
    exact foldlM_append_columns_isOk (fun p hp => hbs p.1 (by simp [List.fst_mem_of_mem_zipIdx hp]))
      (hbs t (by simp))

end Tensor

/-! ## Reading the members -/

namespace ObservableSet

/-- The column a value of a member gives: a value of one column is its own
column, and a value of one entry per event along two more axes gives that entry. -/
def Column (v B : Tensor) : Prop :=
  (∃ E, v.shape = [E, 1] ∧ B = v) ∨
    (∃ E, v.shape = [E, 1, 1] ∧ B.shape = [E, 1] ∧ ∀ e < E, B.get [e, 0] = v.get [e, 0, 0])

/-- A shape that reading a set does not look at: not of two axes, and not of
three with one entry along the last two. -/
def Unhandled (s : Shape) : Prop := s.length ≠ 2 ∧ ∀ E, s ≠ [E, 1, 1]

variable {ev : Events} {o : Observable} {v : Tensor}

theorem block_of_columns (hv : Observable.read ev o = .ok v) {E k : Nat} (hs : v.shape = [E, k])
    (before : Option Tensor) :
    block ev before (.observable o) = if k = 1 then .ok (some v) else .error .rejected := by
  simp only [block, hv, Outcome.ok_bind, lengthsOf_eq_shape, hs, List.map_cons, List.map_nil]
  by_cases hk : k = 1
  · subst hk; rfl
  · have hrepr : ¬k.repr = "1" := fun h => hk (toString_eq_one_iff.mp h)
    simp [hk, hrepr]
    rfl

theorem block_of_cube (hv : Observable.read ev o = .ok v) {E : Nat} (hs : v.shape = [E, 1, 1]) :
    ∃ B, (∀ before, block ev before (.observable o) = .ok (some B)) ∧ B.shape = [E, 1] ∧
      ∀ e < E, B.get [e, 0] = v.get [e, 0, 0] := by
  obtain ⟨B, hB, hshape, hget⟩ := Tensor.index_all_all_pos hs (p := 0) (by decide)
  refine ⟨B, fun before => ?_, hshape, fun e he => hget e 0 he (by decide)⟩
  simp only [block, hv, Outcome.ok_bind, lengthsOf_eq_shape, hs, List.map_cons, List.map_nil]
  rw [show ((0 : Nat) : Int) = 0 from rfl] at hB
  rw [hB]
  rfl

theorem block_of_unhandled (hv : Observable.read ev o = .ok v) (hs : Unhandled v.shape)
    (before : Option Tensor) : block ev before (.observable o) = .ok before := by
  obtain ⟨h2, h3⟩ := hs
  simp only [block, hv, Outcome.ok_bind, lengthsOf_eq_shape]
  split
  · next a last hm =>
    have := congrArg List.length hm
    simp at this
    omega
  · next a hm =>
    obtain ⟨E, b, c, hbc⟩ : ∃ E b c, v.shape = [E, b, c] := by
      have hlen := congrArg List.length hm
      simp only [List.length_map, List.length_cons, List.length_nil] at hlen
      match hshape : v.shape, hlen with
      | [E, b, c], _ => exact ⟨E, b, c, rfl⟩
    simp only [hbc, List.map_cons, List.map_nil, List.cons.injEq] at hm
    obtain ⟨-, hb, hc, -⟩ := hm
    rw [toString_eq_one_iff.mp hb, toString_eq_one_iff.mp hc] at hbc
    exact absurd hbc (h3 E)
  · rfl

/-- What a member can give: a column of its own, whatever came before; the
block before it, when its value has a shape reading does not look at; or an
error, the same whatever came before, which is a `ValueError`, an
`AttributeError`, or the error of reading the member's observable. -/
theorem block_cases (ev : Events) (m : ObservableArg) :
    (∃ o v B, m = .observable o ∧ Observable.read ev o = .ok v ∧ Column v B ∧
      ∀ before, block ev before m = .ok (some B)) ∨
    (∃ o v, m = .observable o ∧ Observable.read ev o = .ok v ∧ Unhandled v.shape ∧
      ∀ before, block ev before m = .ok before) ∨
    (∃ e, (∀ before, block ev before m = .error e) ∧
      (e.kind = .badValue ∨ e.kind = .missingMember ∨
        ∃ o, m = .observable o ∧ Observable.read ev o = .error e)) := by
  cases m with
  | observable o =>
    cases hv : Observable.read ev o with
    | error e =>
      exact .inr (.inr ⟨e, fun before => by simp [block, hv], .inr (.inr ⟨o, rfl, hv⟩)⟩)
    | ok v =>
      by_cases h2 : v.shape.length = 2
      · obtain ⟨E, k, hs⟩ : ∃ E k, v.shape = [E, k] := by
          match hshape : v.shape, h2 with
          | [E, k], _ => exact ⟨E, k, rfl⟩
        by_cases hk : k = 1
        · subst hk
          refine .inl ⟨o, v, v, rfl, hv, .inl ⟨E, hs, rfl⟩, fun before => ?_⟩
          rw [block_of_columns hv hs, if_pos rfl]
        · exact .inr (.inr ⟨.rejected, fun before => by rw [block_of_columns hv hs, if_neg hk],
            .inl rfl⟩)
      · by_cases h3 : ∃ E, v.shape = [E, 1, 1]
        · obtain ⟨E, hs⟩ := h3
          obtain ⟨B, hB, hshape, hget⟩ := block_of_cube hv hs
          exact .inl ⟨o, v, B, rfl, hv, .inr ⟨E, hs, hshape, hget⟩, hB⟩
        · have hs : Unhandled v.shape := ⟨h2, not_exists.mp h3⟩
          exact .inr (.inl ⟨o, v, rfl, hv, hs, block_of_unhandled hv hs⟩)
  | object p => exact .inr (.inr ⟨_, fun _ => rfl, .inr (.inl rfl)⟩)
  | value d => exact .inr (.inr ⟨_, fun _ => rfl, .inr (.inl rfl)⟩)

/-- One member's step of reading a set: its block joins the list, and becomes
the block before the next member. -/
def collect (ev : Events) (acc : Option Tensor × List Tensor) (m : ObservableArg) :
    Outcome (Option Tensor × List Tensor) := do
  match ← block ev acc.1 m with
  | some b => pure (some b, acc.2 ++ [b])
  | none => throw (.unboundParameter "value")

theorem read_eq_foldlM (ev : Events) (s : ObservableSet) :
    s.read ev = (do let r ← s.members.foldlM (collect ev) (none, []); Tensor.concat1 r.2) := rfl

/-- What a member's value gives for the column of its own: its column, or
nothing when reading does not look at its shape. -/
def OwnColumn (ev : Events) : ObservableArg → Option Tensor → Prop
  | .observable o, some B => ∃ v, Observable.read ev o = .ok v ∧ Column v B
  | .observable o, none => ∃ v, Observable.read ev o = .ok v ∧ Unhandled v.shape
  | _, _ => False

/-- The blocks a set joins, from the members' own columns and the block before
the first: a member with a column of its own gives it, and one without gives
again the block before it, which must exist. -/
inductive Carried : Option Tensor → List (Option Tensor) → List Tensor → Prop
  | nil (before : Option Tensor) : Carried before [] []
  | own {before : Option Tensor} (B : Tensor) {owns : List (Option Tensor)} {blocks : List Tensor} :
      Carried (some B) owns blocks → Carried before (some B :: owns) (B :: blocks)
  | stale (B : Tensor) {owns : List (Option Tensor)} {blocks : List Tensor} :
      Carried (some B) owns blocks → Carried (some B) (none :: owns) (B :: blocks)

namespace Carried

variable {before : Option Tensor} {owns : List (Option Tensor)} {blocks : List Tensor}

theorem length_eq (h : Carried before owns blocks) : blocks.length = owns.length := by
  induction h with
  | nil => rfl
  | own B _ ih => simp [ih]
  | stale B _ ih => simp [ih]

theorem getElem?_of_own (h : Carried before owns blocks) {j : Nat} {B : Tensor}
    (hj : owns[j]? = some (some B)) : blocks[j]? = some B := by
  induction h generalizing j with
  | nil => simp at hj
  | own B' _ ih =>
    cases j with
    | zero => simpa using hj
    | succ j => exact ih (by simpa using hj)
  | stale B' _ ih =>
    cases j with
    | zero => simp at hj
    | succ j => exact ih (by simpa using hj)

theorem stale_succ {B : Tensor} {j : Nat}
    (h : (j = 0 ∧ ∃ B', some B = some B' ∧ blocks[0]? = some B') ∨ ∃ i, j = i + 1 ∧ blocks[j]? = blocks[i]?) :
    ∃ i, j + 1 = i + 1 ∧ (B :: blocks)[j + 1]? = (B :: blocks)[i]? := by
  refine ⟨j, rfl, ?_⟩
  rcases h with ⟨rfl, B', hB', hblock⟩ | ⟨i, rfl, hi⟩
  · cases hB'
    simpa using hblock
  · simpa using hi

theorem getElem?_of_stale (h : Carried before owns blocks) {j : Nat} (hj : owns[j]? = some none) :
    (j = 0 ∧ ∃ B, before = some B ∧ blocks[0]? = some B) ∨
      ∃ i, j = i + 1 ∧ blocks[j]? = blocks[i]? := by
  induction h generalizing j with
  | nil => simp at hj
  | own B hc ih =>
    cases j with
    | zero => simp at hj
    | succ j => exact .inr (stale_succ (ih (by simpa using hj)))
  | stale B hc ih =>
    cases j with
    | zero => exact .inl ⟨rfl, B, rfl, rfl⟩
    | succ j => exact .inr (stale_succ (ih (by simpa using hj)))

end Carried

theorem foldlM_collect_eq_ok {ms : List ObservableArg} {before : Option Tensor} {acc : List Tensor}
    {r : Option Tensor × List Tensor} (h : ms.foldlM (collect ev) (before, acc) = .ok r) :
    ∃ owns news, List.Forall₂ (OwnColumn ev) ms owns ∧ Carried before owns news ∧ r.2 = acc ++ news := by
  induction ms generalizing before acc with
  | nil =>
    cases h
    exact ⟨[], [], .nil, .nil before, by simp⟩
  | cons m ms ih =>
    rw [List.foldlM_cons] at h
    obtain ⟨r', hstep, hrest⟩ := Outcome.bind_eq_ok.mp h
    rcases block_cases ev m with ⟨o, v, B, rfl, hv, hcol, hB⟩ | ⟨o, v, rfl, hv, hs, hB⟩ | ⟨e, hB, -⟩
    · simp only [collect, hB, Outcome.ok_bind, Outcome.pure_eq_ok] at hstep
      cases hstep
      obtain ⟨owns, news, hown, hc, hr⟩ := ih hrest
      exact ⟨some B :: owns, B :: news, .cons ⟨v, hv, hcol⟩ hown, .own B hc, by simp [hr]⟩
    · cases before with
      | none => simp [collect, hB] at hstep
      | some B =>
        simp only [collect, hB, Outcome.ok_bind, Outcome.pure_eq_ok] at hstep
        cases hstep
        obtain ⟨owns, news, hown, hc, hr⟩ := ih hrest
        exact ⟨none :: owns, B :: news, .cons ⟨v, hv, hs⟩ hown, .stale B hc, by simp [hr]⟩
    · simp [collect, hB] at hstep

theorem foldlM_collect_of_own {E : Nat} {ms : List ObservableArg}
    (h : ∀ m ∈ ms, ∃ o v, m = .observable o ∧ Observable.read ev o = .ok v ∧
      (v.shape = [E, 1] ∨ v.shape = [E, 1, 1]))
    (before : Option Tensor) (acc : List Tensor) :
    ∃ last news, ms.foldlM (collect ev) (before, acc) = .ok (last, acc ++ news) ∧
      news.length = ms.length ∧ ∀ B ∈ news, B.shape = [E, 1] := by
  induction ms generalizing before acc with
  | nil => exact ⟨before, [], by simp, rfl, by simp⟩
  | cons m ms ih =>
    obtain ⟨o, v, rfl, hv, hs⟩ := h m (by simp)
    -- the member's own column and its shape, from the shape of its value
    obtain ⟨B, hB, hshape⟩ : ∃ B, (∀ b, block ev b (.observable o) = .ok (some B)) ∧ B.shape = [E, 1] := by
      rcases hs with hs | hs
      · exact ⟨v, fun b => by rw [block_of_columns hv hs, if_pos rfl], hs⟩
      · obtain ⟨B, hB, hshape, -⟩ := block_of_cube hv hs
        exact ⟨B, hB, hshape⟩
    obtain ⟨last, news, hrest, hlen, hnews⟩ := ih (fun m' hm' => h m' (by simp [hm'])) (some B) (acc ++ [B])
    refine ⟨last, B :: news, ?_, by simp [hlen], ?_⟩
    · rw [List.foldlM_cons]
      simp only [collect, hB, Outcome.ok_bind, Outcome.pure_eq_ok]
      simpa using hrest
    · intro B' hB'
      rcases List.mem_cons.mp hB' with rfl | hB'
      · exact hshape
      · exact hnews B' hB'

theorem foldlM_collect_eq_error {ms : List ObservableArg} {before : Option Tensor} {acc : List Tensor}
    {e : Error} (h : ms.foldlM (collect ev) (before, acc) = .error e) :
    (e.kind = .badValue ∨ e.kind = .missingMember ∨
      ∃ o, .observable o ∈ ms ∧ Observable.read ev o = .error e) ∨
    (e = .unboundParameter "value" ∧ before = none ∧
      ∃ o v rest, ms = .observable o :: rest ∧ Observable.read ev o = .ok v ∧ Unhandled v.shape) := by
  induction ms generalizing before acc with
  | nil => cases h
  | cons m ms ih =>
    rw [List.foldlM_cons] at h
    -- a failure later on comes after a block, so it is an error of a later member
    have later : ∀ B acc', ms.foldlM (collect ev) (some B, acc') = .error e →
        e.kind = .badValue ∨ e.kind = .missingMember ∨
          ∃ o, .observable o ∈ m :: ms ∧ Observable.read ev o = .error e := by
      intro B acc' hrest
      rcases ih hrest with h' | ⟨-, hnone, -⟩
      · rcases h' with h' | h' | ⟨o, ho, hv⟩
        · exact .inl h'
        · exact .inr (.inl h')
        · exact .inr (.inr ⟨o, by simp [ho], hv⟩)
      · cases hnone
    rcases block_cases ev m with ⟨o, v, B, rfl, hv, hcol, hB⟩ | ⟨o, v, rfl, hv, hs, hB⟩ | ⟨e', hB, he'⟩
    · simp only [collect, hB, Outcome.ok_bind, Outcome.pure_eq_ok] at h
      exact .inl (later B _ h)
    · cases before with
      | none =>
        simp only [collect, hB, Outcome.ok_bind] at h
        cases h
        exact .inr ⟨rfl, rfl, o, v, ms, rfl, hv, hs⟩
      | some B =>
        simp only [collect, hB, Outcome.ok_bind, Outcome.pure_eq_ok] at h
        exact .inl (later B _ h)
    · simp only [collect, hB, Outcome.error_bind] at h
      cases h
      rcases he' with he' | he' | ⟨o, rfl, hv⟩
      · exact .inl (.inl he')
      · exact .inl (.inr (.inl he'))
      · exact .inl (.inr (.inr ⟨o, by simp, hv⟩))

/-- What reading a set of observables from events gives. A result has one
column per member and one entry per event in each; the member at `j` has a
column of its own (`OwnColumn`) or none, column `j` is built from its own
column when it has one, and from column `j - 1` again when it has none; each
entry comes from its column's entry, converted to the joint element type.
Members whose values all have a column, with one number of events, are read.
A failure is a `ValueError`, an `AttributeError`, the error of reading a
member, or an unbound name, when the first member's value has a shape reading
does not look at. -/
def ReadsColumns (ev : Events) (s : ObservableSet) : Prop :=
  (∀ T, s.read ev = .ok T → ∃ (owns : List (Option Tensor)) (blocks : List Tensor) (E : Nat),
    List.Forall₂ (OwnColumn ev) s.members owns ∧ blocks.length = s.members.length ∧
    (∀ (j : Nat) (B : Tensor), owns[j]? = some (some B) → blocks[j]? = some B) ∧
    (∀ j : Nat, owns[j]? = some none → ∃ i, j = i + 1 ∧ blocks[j]? = blocks[i]?) ∧
    T.shape = [E, s.members.length] ∧
    ∀ (j : Nat) (B : Tensor), blocks[j]? = some B → ∀ e < E,
      ∃ ds, T.get [e, j] = Scalar.castThrough ds (B.get [e, 0])) ∧
  (∀ E, s.members ≠ [] →
    (∀ m ∈ s.members, ∃ o v, m = .observable o ∧ Observable.read ev o = .ok v ∧
      (v.shape = [E, 1] ∨ v.shape = [E, 1, 1])) →
    ∃ T, s.read ev = .ok T) ∧
  (∀ e, s.read ev = .error e →
    e.kind = .badValue ∨ e.kind = .missingMember ∨
    (∃ o, .observable o ∈ s.members ∧ Observable.read ev o = .error e) ∨
    (e = .unboundParameter "value" ∧
      ∃ o v rest, s.members = .observable o :: rest ∧ Observable.read ev o = .ok v ∧ Unhandled v.shape))

theorem Column.shape {v B : Tensor} (h : Column v B) : ∃ E, B.shape = [E, 1] := by
  rcases h with ⟨E, hv, rfl⟩ | ⟨E, -, hB, -⟩
  · exact ⟨E, hv⟩
  · exact ⟨E, hB⟩

theorem Carried.mem_blocks {before : Option Tensor} {owns : List (Option Tensor)} {blocks : List Tensor}
    (h : Carried before owns blocks) {B : Tensor} (hB : B ∈ blocks) : some B = before ∨ some B ∈ owns := by
  induction h with
  | nil => cases hB
  | own B' _ ih =>
    rcases List.mem_cons.mp hB with rfl | hB
    · exact .inr (by simp)
    · rcases ih hB with h | h
      · exact .inr (by simp [h])
      · exact .inr (by simp [h])
  | stale B' _ ih =>
    rcases List.mem_cons.mp hB with rfl | hB
    · exact .inl rfl
    · rcases ih hB with h | h
      · exact .inl h
      · exact .inr (by simp [h])

theorem shape_of_ownColumns {ms : List ObservableArg} {owns : List (Option Tensor)}
    (hown : List.Forall₂ (OwnColumn ev) ms owns) {B : Tensor} (hB : some B ∈ owns) : ∃ E, B.shape = [E, 1] := by
  induction hown with
  | nil => cases hB
  | @cons m own ms owns hm _ ih =>
    rcases List.mem_cons.mp hB with rfl | hB
    · cases m with
      | observable o =>
        obtain ⟨v, -, hcol⟩ := hm
        exact hcol.shape
      | object p => exact hm.elim
      | value d => exact hm.elim
    · exact ih hB

theorem shape_of_carried {ms : List ObservableArg} {owns : List (Option Tensor)} {blocks : List Tensor}
    (hown : List.Forall₂ (OwnColumn ev) ms owns) (hc : Carried none owns blocks) :
    ∀ B ∈ blocks, ∃ E, B.shape = [E, 1] := by
  intro B hB
  rcases hc.mem_blocks hB with h | h
  · cases h
  · exact shape_of_ownColumns hown h

/-- Reading a set: one column per member, built from the member's own column or
repeating the one before; reading succeeds when every member has a column; a
failure is a `ValueError`, an `AttributeError`, a member's error, or an
unbound name. -/
theorem read_carries_columns (ev : Events) (s : ObservableSet) : ReadsColumns ev s := by
  refine ⟨fun T hT => ?_, fun E hne hmembers => ?_, fun e he => ?_⟩
  · rw [read_eq_foldlM] at hT
    obtain ⟨r, hfold, hjoin⟩ := Outcome.bind_eq_ok.mp hT
    obtain ⟨owns, blocks, hown, hc, hr⟩ := foldlM_collect_eq_ok hfold
    rw [hr, List.nil_append] at hjoin
    obtain ⟨E, hshape, -, hentries⟩ := Tensor.concat1_columns (shape_of_carried hown hc) hjoin
    have hlen : blocks.length = s.members.length := hc.length_eq.trans hown.length_eq.symm
    refine ⟨owns, blocks, E, hown, hlen, fun j B hj => hc.getElem?_of_own hj, fun j hj => ?_,
      by rw [hshape, hlen], hentries⟩
    -- no block comes before the first member, so a member without a column is not the first
    rcases hc.getElem?_of_stale hj with ⟨-, B, hB, -⟩ | h
    · cases hB
    · exact h
  · obtain ⟨last, blocks, hfold, hlen, hshapes⟩ := foldlM_collect_of_own hmembers none []
    have hblocks : blocks ≠ [] := by
      intro h
      rw [h, List.length_nil] at hlen
      exact hne (List.eq_nil_of_length_eq_zero hlen.symm)
    obtain ⟨T, hT⟩ := Tensor.concat1_columns_isOk hblocks hshapes
    refine ⟨T, ?_⟩
    rw [read_eq_foldlM, hfold, Outcome.ok_bind]
    simpa using hT
  · rw [read_eq_foldlM] at he
    rcases Outcome.bind_eq_error.mp he with hfold | ⟨r, hfold, hjoin⟩
    · rcases foldlM_collect_eq_error hfold with h | ⟨hunbound, -, hfirst⟩
      · rcases h with h | h | h
        · exact .inl h
        · exact .inr (.inl h)
        · exact .inr (.inr (.inl h))
      · exact .inr (.inr (.inr ⟨hunbound, hfirst⟩))
    · obtain ⟨owns, blocks, hown, hc, hr⟩ := foldlM_collect_eq_ok hfold
      rw [hr, List.nil_append] at hjoin
      exact .inl (Tensor.concat1_columns_error (shape_of_carried hown hc) hjoin)

/-! ## A size after a tag

The tag of the first jet has one column; the number of jets has one entry per
event and no column. Read after the tag, the number of jets gives the tag's
column again; read first, it leaves nothing to give. -/

def jet0BTag : Observable :=
  { kind := .bTag, physicsObject := some (.single "Jet" 0), className := .str "BTag",
    supported := some ["single", "collective"], counts := .none }

def jetSize : Observable :=
  { kind := .size, physicsObject := some (.collective "Jet" none none), className := .str "Size",
    supported := some ["collective"], counts := .none }

def jet0Pt : Observable :=
  { kind := .pt, physicsObject := some (.single "Jet" 0), className := .str "Pt",
    supported := some ["single", "collective", "nested"], counts := .none }

def tagSizeEvents : Events :=
  ⟨[("Jet.BTag", { dtype := .int32, shape := [2, 2], data := #[.int 1, .int 0, .int 0, .int 1] }),
    ("Jet_size", { dtype := .int32, shape := [2], data := #[.int 2, .int 2] })]⟩

def tagSizeSet : ObservableSet := ⟨[.observable jet0BTag, .observable jetSize]⟩

theorem read_carries_columns_tagSize : ReadsColumns tagSizeEvents tagSizeSet :=
  read_carries_columns tagSizeEvents tagSizeSet

/-- The number of jets takes the tag's column: both columns hold the tags, not
the two jets of each event. Read first, it leaves an unbound name; a missing
momentum raises the error of its read, not a `ValueError`. -/
theorem read_repeats_tag_column :
    ((tagSizeSet.read tagSizeEvents).toOption.map fun T =>
        (T.shape, [T.get [0, 0], T.get [0, 1], T.get [1, 0], T.get [1, 1]].map Scalar.toInt)) =
      some ([2, 2], [1, 1, 0, 0]) ∧
    ((Observable.read tagSizeEvents jetSize).toOption.map fun v => (v.shape, v.data.toList.map Scalar.toInt)) =
      some ([2], [2, 2]) ∧
    ((((⟨[.observable jetSize, .observable jet0BTag]⟩ : ObservableSet).read tagSizeEvents).map
      fun _ => ()).mapError Error.kind) = .error .unboundName ∧
    ((((⟨[.observable jet0BTag, .observable jet0Pt]⟩ : ObservableSet).read tagSizeEvents).map
      fun _ => ()).mapError Error.kind) = .error .missingKey := by
  decide +kernel

end ObservableSet

end ColliderML
