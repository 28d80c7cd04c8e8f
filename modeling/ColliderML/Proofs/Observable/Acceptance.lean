import ColliderML.Proofs.Observable.Parse
import ColliderML.Proofs.PhysicsObject.Classification

/-!
# Which names give observables, and how the others fail

Under the shipped table, with the integer counts its class name leaves open, a
name gives an observable exactly when its class name selects a kind, its object
name reads an object the kind admits, and its counts read.  Every other name
fails with a bad value, with two exceptions.  An angular distance given a
multiple object whose members are not two fails its check.  A kind that
supports multiple objects (the invariant mass, the angular distance) given an
object that is not multiple fails looking up the members of that object: the
object check asks for the members before it asks whether there are any, so
these kinds refuse every single, collective and nested object that way, the
single objects the invariant mass lists as supported among them.  Calling the
constructor of a kind on an object argument behaves the same.
-/

namespace ColliderML

namespace Observable

open Text PhysicsObject

/-! ## The digits of a τ name -/

theorem length_lower_of_isTauName {cn : String} {k : Nat} (h : isTauName cn k = true) :
    k + 3 ≤ (lower cn).toList.length := by
  unfold isTauName at h
  split at h
  · next rest heq =>
      have hk : (rest.takeWhile isDecimalDigit).length = k := by
        simp only [Bool.and_eq_true, decide_eq_true_eq] at h
        exact h.1
      have hle := (List.takeWhile_sublist (p := isDecimalDigit) (l := rest)).length_le
      rw [heq]
      simp only [List.length_cons]
      omega
  · cases h

theorem le_length_of_isTauName {cn : String} {k : Nat} (h : isTauName cn k = true)
    (hk : k ≤ 3) : k ≤ cn.toList.length := by
  have hlower := length_lower_of_isTauName h
  have hdouble := length_lower_le cn
  omega

theorem fromEnd_isSome {s : String} {k : Nat} (hk : 1 ≤ k) (hlen : k ≤ s.toList.length) :
    ∃ c, fromEnd s k = some c :=
  ⟨_, List.getElem?_eq_getElem (by simp only [List.length_reverse]; omega)⟩

theorem digitOf_some_error {c : Char} {e : Error} (h : digitOf (some c) = .error e) :
    e.kind = .badValue := by
  unfold digitOf at h
  dsimp only at h
  split at h
  · cases h
  · cases h
    rfl

theorem digitOf_fromEnd_error {cn : String} {k : Nat} {e : Error} (hk : 1 ≤ k)
    (hlen : k ≤ cn.toList.length) (h : digitOf (fromEnd cn k) = .error e) : e.kind = .badValue := by
  obtain ⟨c, hc⟩ := fromEnd_isSome hk hlen
  rw [hc] at h
  exact digitOf_some_error h

theorem nameCounts_error {cn : String} {kind : ObservableKind} {m n : Int} {e : Error}
    (hkind : classKind AliasTable.shipped cn = some kind)
    (h : nameCounts AliasTable.shipped kind cn m n = .error e) : e.kind = .badValue := by
  unfold nameCounts at h
  split at h
  · cases h
  · next hfind =>
      rcases tau_of_classKind hfind hkind with ⟨rfl, htau⟩ | ⟨rfl, htau⟩
      · have hlen := le_length_of_isTauName htau (by decide)
        rcases Outcome.bind_eq_error.mp h with hn | ⟨_, -, hcont⟩
        · exact digitOf_fromEnd_error (Nat.le_refl 1) hlen hn
        · cases hcont
      · have hlen := le_length_of_isTauName htau (by decide)
        rcases Outcome.bind_eq_error.mp h with hm | ⟨_, -, h⟩
        · exact digitOf_fromEnd_error (by decide) hlen hm
        · rcases Outcome.bind_eq_error.mp h with hn | ⟨_, -, hcont⟩
          · exact digitOf_fromEnd_error (Nat.le_refl 1) (by omega) hn
          · cases hcont

/-! ## How a build refuses an object -/

def ExpectsMultiple (kind : ObservableKind) (p : PhysicsObject) : Prop :=
  ∃ ks, kind.supported = some ks ∧ .multiple ∈ ks ∧ p.kind ≠ .multiple

/-- The kinds of error a build may raise when its object argument reads as `read`
says, for a kind and an object: any bad value; a failed check when an angular
distance reads a multiple object whose members are not two; a missing member
when a kind that expects a multiple object reads another. -/
def Raises (read : ObservableKind → PhysicsObject → Prop) : ErrorKind → Prop
  | .badValue => True
  | .checkFailed => ∃ all, read .angularDistance (.multiple all) ∧ all.length ≠ 2
  | .missingMember => ∃ kind p, read kind p ∧ ExpectsMultiple kind p
  | _ => False

theorem Raises.mono {read₁ read₂ : ObservableKind → PhysicsObject → Prop} {k : ErrorKind}
    (hread : ∀ kind p, read₁ kind p → read₂ kind p) (h : Raises read₁ k) : Raises read₂ k := by
  cases k with
  | badValue => trivial
  | checkFailed =>
      obtain ⟨all, hall, hlen⟩ := h
      exact ⟨all, hread _ _ hall, hlen⟩
  | missingMember =>
      obtain ⟨kind, p, hp, hexp⟩ := h
      exact ⟨kind, p, hread _ _ hp, hexp⟩
  | _ => exact h.elim

theorem raises_badValue {read : ObservableKind → PhysicsObject → Prop} {e : Error}
    (h : e.kind = .badValue) : Raises read e.kind := by
  rw [h]
  trivial

theorem objectOfArg_error {a : ObjectArg} {e : Error} (h : objectOfArg a = .error e) :
    e.kind = .badValue := by
  cases a with
  | value d =>
      cases d
      case str s =>
        have hread := Outcome.map_eq_error.mp h
        rw [eq_invalidObjectName_of_ofName hread]
        rfl
      all_goals cases h
  | _ => cases h

theorem checkObject_error {ks : List ObjectClass} {p : PhysicsObject} {e : Error}
    (h : checkObject (some p) (some (ks.map ObjectClass.word)) = .error e) :
    e = .unsupportedObject ∨ (e = .noMember p.kind.name "all" ∧ .multiple ∈ ks ∧ p.kind ≠ .multiple) := by
  by_cases hmul : .multiple ∈ ks
  · rw [checkObject_of_multiple_mem hmul] at h
    cases p with
    | multiple all =>
        dsimp only at h
        by_cases hall : ∀ m ∈ all, m.kind ∈ ks
        · rw [if_pos hall] at h
          cases h
        · rw [if_neg hall] at h
          cases h
          exact .inl rfl
    | _ =>
        cases h
        exact .inr ⟨rfl, hmul, nofun⟩
  · rw [checkObject_of_multiple_not_mem hmul] at h
    split at h
    · cases h
    · cases h
      exact .inl rfl

theorem pairCheck_error {kind : ObservableKind} {p : PhysicsObject} {e : Error}
    (h : pairCheck kind (some p) = .error e) :
    e = .twoObjectsRequired ∧ kind = .angularDistance ∧ ∃ all, p = .multiple all ∧ all.length ≠ 2 := by
  unfold pairCheck at h
  split at h
  · next hangular =>
      cases p with
      | multiple all =>
          dsimp only at h
          split at h
          · cases h
          · next hlen =>
              cases h
              exact ⟨rfl, hangular, all, rfl, hlen⟩
      | _ => cases h
  · cases h

theorem create_error {kind : ObservableKind} {ks : List ObjectClass} {a sup : ObjectArg}
    {cn : Datum} {counts : SubjetCounts} {e : Error} (hks : kind.supported = some ks)
    (h : create kind a cn sup counts = .error e) :
    Raises (fun k p => k = kind ∧ objectOfArg a = .ok (some p)) e.kind := by
  rw [create_eq hks] at h
  rcases Outcome.bind_eq_error.mp h with hobj | ⟨po, hobj, h⟩
  · exact raises_badValue (objectOfArg_error hobj)
  cases po with
  | none =>
      -- a kind that restricts objects needs one
      cases h
      trivial
  | some p =>
      rcases Outcome.bind_eq_error.mp h with hcheck | ⟨_, -, h⟩
      · rcases checkObject_error hcheck with rfl | ⟨rfl, hmul, hp⟩
        · trivial
        · exact ⟨kind, p, ⟨rfl, hobj⟩, ks, hks, hmul, hp⟩
      rcases Outcome.bind_eq_error.mp h with hpair | ⟨_, -, hcont⟩
      · obtain ⟨rfl, rfl, all, rfl, hlen⟩ := pairCheck_error hpair
        exact ⟨all, ⟨rfl, hobj⟩, hlen⟩
      · cases hcont

theorem create_of_expectsMultiple {kind : ObservableKind} {a sup : ObjectArg} {cn : Datum}
    {counts : SubjetCounts} {p : PhysicsObject} (hobj : objectOfArg a = .ok (some p))
    (hexp : ExpectsMultiple kind p) :
    create kind a cn sup counts = .error (.noMember p.kind.name "all") := by
  obtain ⟨ks, hks, hmul, hp⟩ := hexp
  have hcheck : checkObject (some p) (some (ks.map ObjectClass.word)) =
      .error (.noMember p.kind.name "all") := by
    rw [checkObject_of_multiple_mem hmul]
    cases p with
    | multiple all => exact absurd rfl hp
    | _ => rfl
  rw [create_eq hks, hobj, Outcome.ok_bind, hcheck]
  rfl

/-! ## Reading names -/

def countArgs (s : String) (m n : Int) : List (String × ObjectArg) :=
  countKwargs (kwargParams AliasTable.shipped (splitName s).2) m n

/-- A name reads as a kind and an object under the shipped table: its class name
selects the kind and its object name reads the object. -/
def ReadsAs (s : String) (kind : ObservableKind) (p : PhysicsObject) : Prop :=
  classKind AliasTable.shipped (splitName s).2 = some kind ∧
    ∃ po, (splitName s).1 = some po ∧ ofName po = .ok p

theorem parse_countArgs_eq_ok_iff {s : String} {m n : Int} {o : Observable} :
    parse AliasTable.shipped s (countArgs s m n) = .ok (some o) ↔
      ∃ kind ks p counts, ReadsAs s kind p ∧ kind.supported = some ks ∧ Admits kind ks p ∧
        nameCounts AliasTable.shipped kind (splitName s).2 m n = .ok counts ∧
        o = created kind ks p (.str (splitName s).2) counts := by
  constructor
  · intro h
    rw [countArgs, parse_shipped_countKwargs (ne_None_of_parse h nofun)] at h
    split at h
    · next kind hkind =>
        obtain ⟨o', hbuild, hsome⟩ := Outcome.map_eq_ok.mp h
        cases hsome
        obtain ⟨counts, hcounts, hcreate⟩ := Outcome.bind_eq_ok.mp hbuild
        obtain ⟨ks, hks⟩ := exists_supported_of_ne_generic (ne_generic_of_classKind hkind)
        obtain ⟨p, hp, hadmits, rfl⟩ := (create_eq_ok_iff hks).mp hcreate
        obtain ⟨po, hpo, hread⟩ := eq_some_of_objectOfArg_prefixArg hp
        exact ⟨kind, ks, p, counts, ⟨hkind, po, hpo, hread⟩, hks, hadmits, hcounts, rfl⟩
    · cases h
  · rintro ⟨kind, ks, p, counts, ⟨hkind, po, hpo, hread⟩, hks, hadmits, hcounts, rfl⟩
    exact parse_shipped_of_admits (Prod.ext hpo rfl) hkind hks hread hadmits hcounts

theorem parse_countArgs_error {s : String} {m n : Int} {e : Error}
    (h : parse AliasTable.shipped s (countArgs s m n) = .error e) :
    Raises (ReadsAs s) e.kind := by
  rw [countArgs, parse_shipped_countKwargs (ne_None_of_parse h nofun)] at h
  split at h
  · next kind hkind =>
      rcases Outcome.bind_eq_error.mp (Outcome.map_eq_error.mp h) with hcounts | ⟨counts, -, hcreate⟩
      · exact raises_badValue (nameCounts_error hkind hcounts)
      · obtain ⟨ks, hks⟩ := exists_supported_of_ne_generic (ne_generic_of_classKind hkind)
        -- the object argument is the object name, so what it reads is what the name reads
        refine (create_error hks hcreate).mono ?_
        rintro _ p ⟨rfl, hp⟩
        obtain ⟨po, hpo, hread⟩ := eq_some_of_objectOfArg_prefixArg hp
        exact ⟨hkind, po, hpo, hread⟩
  · cases h
    trivial

theorem not_expectsMultiple_of_tau {kind : ObservableKind} {p : PhysicsObject}
    (htau : kind = .tauN ∨ kind = .tauMN) : ¬ExpectsMultiple kind p := by
  rintro ⟨ks, hks, hmul, -⟩
  rcases htau with rfl | rfl <;> (cases hks; simp at hmul)

theorem parse_countArgs_of_expectsMultiple {s : String} {m n : Int} {kind : ObservableKind}
    {p : PhysicsObject} (hread : ReadsAs s kind p) (hexp : ExpectsMultiple kind p) :
    parse AliasTable.shipped s (countArgs s m n) = .error (.noMember p.kind.name "all") := by
  obtain ⟨hkind, po, hpo, hp⟩ := hread
  have hsplit : splitName s = (some po, (splitName s).2) := Prod.ext hpo rfl
  have hobj : objectOfArg (prefixArg (splitName s).1) = .ok (some p) := by
    simp [hpo, objectOfArg, prefixArg, hp, Except.map]
  -- the counts of such a kind are those given: it is no τ kind
  have hcounts : nameCounts AliasTable.shipped kind (splitName s).2 m n =
      .ok (givenCounts kind.subjetParams m n) := by
    unfold nameCounts
    split
    · rfl
    · next hfind =>
        rcases tau_of_classKind hfind hkind with ⟨htau, -⟩ | ⟨htau, -⟩
        · exact absurd hexp (not_expectsMultiple_of_tau (.inl htau))
        · exact absurd hexp (not_expectsMultiple_of_tau (.inr htau))
  rw [countArgs, parse_shipped_countKwargs (ne_none_of_splitName hsplit), hkind]
  dsimp only
  rw [hcounts, Outcome.ok_bind, create_of_expectsMultiple hobj hexp]
  rfl

/-! ## Calling a constructor -/

def constructorArgs (kind : ObservableKind) (a : ObjectArg) (m n : Int) :
    List (String × ObjectArg) :=
  countKwargs kind.subjetParams m n ++ [("physics_object", a)]

theorem ne_generic_of_supported {kind : ObservableKind} {ks : List ObjectClass}
    (hks : kind.supported = some ks) : kind ≠ .generic := by
  rintro rfl
  cases hks

theorem construct_constructorArgs {kind : ObservableKind} (hgen : kind ≠ .generic)
    (a : ObjectArg) (m n : Int) :
    construct kind (constructorArgs kind a m n) =
      create kind a .none (.value .none) (givenCounts kind.subjetParams m n) := by
  have hpar := parameters_of_ne_generic hgen
  rw [constructorArgs, construct_of_params, countsOf_given (m := m) (n := n)]
  · simp [List.lookup_append, lookup_countKwargs, classNameOf, List.lookup]
  all_goals cases hps : kind.subjetParams <;> simp_all [countKwargs, List.lookup]

/-! ## Acceptance and refusal -/

/-- Under the shipped table, with the integer counts its class name leaves open, a
name gives an observable exactly when it reads as a kind and an object the kind
admits and its counts read, and the observable is then the record of these.  It
fails otherwise with a bad value, a failed check for an angular distance read
with a multiple object of other than two members, or a missing member for a
kind expecting a multiple object read with another, which it always does then.
The constructor of a kind, given the counts and an object argument, accepts and
refuses alike. -/
theorem observable_acceptance (s : String) (m n : Int) :
    (∀ o, parse AliasTable.shipped s (countArgs s m n) = .ok (some o) ↔
      ∃ kind ks p counts, ReadsAs s kind p ∧ kind.supported = some ks ∧ Admits kind ks p ∧
        nameCounts AliasTable.shipped kind (splitName s).2 m n = .ok counts ∧
        o = created kind ks p (.str (splitName s).2) counts) ∧
    (∀ e, parse AliasTable.shipped s (countArgs s m n) = .error e → Raises (ReadsAs s) e.kind) ∧
    (∀ kind p, ReadsAs s kind p → ExpectsMultiple kind p →
      parse AliasTable.shipped s (countArgs s m n) = .error (.noMember p.kind.name "all")) ∧
    ∀ kind ks a, kind.supported = some ks →
      (∀ o, construct kind (constructorArgs kind a m n) = .ok o ↔
        ∃ p, objectOfArg a = .ok (some p) ∧ Admits kind ks p ∧
          o = created kind ks p .none (givenCounts kind.subjetParams m n)) ∧
      (∀ e, construct kind (constructorArgs kind a m n) = .error e →
        Raises (fun k p => k = kind ∧ objectOfArg a = .ok (some p)) e.kind) ∧
      (∀ p, objectOfArg a = .ok (some p) → ExpectsMultiple kind p →
        construct kind (constructorArgs kind a m n) = .error (.noMember p.kind.name "all")) := by
  refine ⟨fun _ => parse_countArgs_eq_ok_iff, fun _ => parse_countArgs_error,
    fun _ _ => parse_countArgs_of_expectsMultiple, ?_⟩
  intro kind ks a hks
  rw [construct_constructorArgs (ne_generic_of_supported hks)]
  exact ⟨fun _ => create_eq_ok_iff hks, fun _ => create_error hks,
    fun _ => create_of_expectsMultiple⟩

/-- The invariant mass lists single objects as supported, yet refuses a single
jet by its missing members. -/
theorem invariantMass_refuses_single :
    ReadsAs "jet0.InvariantMass" .invariantMass (.single "jet" 0) ∧
      ExpectsMultiple .invariantMass (.single "jet" 0) ∧
      parse AliasTable.shipped "jet0.InvariantMass" [] = .error (.noMember "Single" "all") := by
  have hsplit : splitName "jet0.InvariantMass" = (some "jet0", "InvariantMass") := by
    have h : splitName ("jet0" ++ "." ++ "InvariantMass") = (some "jet0", "InvariantMass") :=
      splitName_append (by decide)
    rwa [show "jet0" ++ "." ++ "InvariantMass" = "jet0.InvariantMass" from rfl] at h
  have hfind : AliasTable.shipped.find? "InvariantMass" = some .invariantMass := by
    decide +kernel
  have hjet : ofName "jet0" = .ok (.single "jet" 0) := by
    have hname : (PhysicsObject.single "jet" 0).name = "jet0" := by
      simp [PhysicsObject.name]
      decide
    exact hname ▸ ofName_name (by decide)
  have hread : ReadsAs "jet0.InvariantMass" .invariantMass (.single "jet" 0) := by
    rw [ReadsAs, hsplit]
    exact ⟨classKind_of_find? hfind, "jet0", rfl, hjet⟩
  have hexp : ExpectsMultiple .invariantMass (.single "jet" 0) :=
    ⟨[.single, .multiple], rfl, by simp, by simp [PhysicsObject.kind]⟩
  have h := (observable_acceptance "jet0.InvariantMass" 0 0).2.2.1 _ _ hread hexp
  simp only [countArgs, hsplit, kwargParams, hfind, ObservableKind.subjetParams, countKwargs] at h
  exact ⟨hread, hexp, h⟩

end Observable

end ColliderML
