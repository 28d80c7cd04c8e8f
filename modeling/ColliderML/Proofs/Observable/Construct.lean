import ColliderML.Observable.Build
import ColliderML.Proofs.PhysicsObject.RoundTrip

/-!
# Building observables

An observable is built in three steps: the named arguments are bound to the
parameters of the kind's constructor, the subjet counts are read from them, and
`create` reads the physics object, checks it against the kinds the observable
supports and assembles the record.  Binding looks only at the names of the
arguments, and the object argument is used only through the object it reads:
two argument lists with the same names that differ only in how they write the
object build the same observable.  A successful `create` is the record of its
inputs, and it succeeds exactly when the kind admits the object.
-/

namespace ColliderML

/-! ## Binding named arguments -/

section Binding

variable {α : Type} {callee : String} {params required : List String}

theorem bindArguments_eq_ok {args : List (String × α)} {get : String → Option α}
    (h : bindArguments callee params required args = .ok get) :
    get = fun p => args.lookup p := by
  unfold bindArguments at h
  split at h
  · cases h
  · dsimp only at h
    split at h
    · cases h
      rfl
    · cases h

theorem lookup_isNone_congr {args₁ args₂ : List (String × α)}
    (h : args₁.map Prod.fst = args₂.map Prod.fst) (p : String) :
    (args₁.lookup p).isNone = (args₂.lookup p).isNone := by
  induction args₁ generalizing args₂ with
  | nil =>
      cases args₂ with
      | nil => rfl
      | cons _ _ => cases h
  | cons kv args₁ ih =>
      cases args₂ with
      | nil => cases h
      | cons kv₂ args₂ =>
          obtain ⟨k, v⟩ := kv
          obtain ⟨k₂, v₂⟩ := kv₂
          simp only [List.map_cons, List.cons.injEq] at h
          obtain ⟨rfl, hrest⟩ := h
          simp only [List.lookup_cons]
          split <;> simp [ih hrest]

theorem bindArguments_congr {args₁ args₂ : List (String × α)}
    (h : args₁.map Prod.fst = args₂.map Prod.fst) :
    bindArguments callee params required args₁ =
      (bindArguments callee params required args₂).map fun _ p => args₁.lookup p := by
  have hfind : (args₁.find? fun kv => !params.contains kv.1).map Prod.fst =
      (args₂.find? fun kv => !params.contains kv.1).map Prod.fst := by
    have h₁ := List.find?_map (p := fun k => !params.contains k) (f := Prod.fst) (l := args₁)
    have h₂ := List.find?_map (p := fun k => !params.contains k) (f := Prod.fst) (l := args₂)
    rw [h] at h₁
    exact h₁.symm.trans h₂
  have hmissing : required.filter (fun p => (args₁.lookup p).isNone) =
      required.filter (fun p => (args₂.lookup p).isNone) :=
    List.filter_congr fun p _ => lookup_isNone_congr h p
  unfold bindArguments
  cases h₁ : args₁.find? (fun kv => !params.contains kv.1) with
  | some kv₁ =>
      cases h₂ : args₂.find? (fun kv => !params.contains kv.1) with
      | some kv₂ =>
          rw [h₁, h₂] at hfind
          simp only [Option.map_some, Option.some.injEq] at hfind
          simp [hfind, Except.map]
      | none =>
          rw [h₁, h₂] at hfind
          cases hfind
  | none =>
      cases h₂ : args₂.find? (fun kv => !params.contains kv.1) with
      | some kv₂ =>
          rw [h₁, h₂] at hfind
          cases hfind
      | none =>
          simp only [hmissing]
          split <;> rfl

theorem bindArguments_of_params {args : List (String × α)}
    (hparams : ∀ kv ∈ args, kv.1 ∈ params) (hrequired : ∀ r ∈ required, r ∈ args.map Prod.fst) :
    bindArguments callee params required args = .ok fun p => args.lookup p := by
  have hfind : args.find? (fun kv => !params.contains kv.1) = none := by
    rw [List.find?_eq_none]
    intro kv hkv
    simp [hparams kv hkv]
  have hmissing : required.filter (fun p => (args.lookup p).isNone) = [] := by
    rw [List.filter_eq_nil_iff]
    intro r hr hnone
    obtain ⟨kv, hkv, hkey⟩ := List.mem_map.mp (hrequired r hr)
    have hsome : (args.lookup r).isSome = true :=
      List.lookup_isSome_iff.mpr ⟨kv, hkv, by simp [hkey]⟩
    rw [Option.isNone_iff_eq_none] at hnone
    rw [hnone] at hsome
    cases hsome
  unfold bindArguments
  rw [hfind]
  simp [hmissing]

end Binding

namespace Observable

/-! ## Building depends on the object argument only through its object -/

section Congruence

variable {kind : ObservableKind}

theorem construct_congr {args₁ args₂ : List (String × ObjectArg)}
    (hkeys : args₁.map Prod.fst = args₂.map Prod.fst)
    (hother : ∀ k, k ≠ "physics_object" → args₁.lookup k = args₂.lookup k)
    (hobj : objectOfArg ((args₁.lookup "physics_object").getD (.value .none)) =
      objectOfArg ((args₂.lookup "physics_object").getD (.value .none))) :
    construct kind args₁ = construct kind args₂ := by
  have hn := hother "n" (by decide)
  have hm := hother "m" (by decide)
  have hcn := hother "class_name" (by decide)
  have hsup := hother "supported_objects" (by decide)
  unfold construct
  cases kind.parameters with
  | mk params required =>
      dsimp only
      rw [bindArguments_congr hkeys]
      cases hbind : bindArguments kind.initName params required args₂ with
      | error e => rfl
      | ok get =>
          obtain rfl := bindArguments_eq_ok hbind
          simp only [Except.map, Outcome.ok_bind, countsOf, hn, hm, hcn, hsup, create, hobj]

theorem construct_object_congr {a b : ObjectArg} (h : objectOfArg a = objectOfArg b)
    (pre post : List (String × ObjectArg)) (hpre : ∀ kv ∈ pre, kv.1 ≠ "physics_object") :
    construct kind (pre ++ ("physics_object", a) :: post) =
      construct kind (pre ++ ("physics_object", b) :: post) := by
  have hnone : pre.lookup "physics_object" = none :=
    List.lookup_eq_none_iff.mpr fun kv hkv => by simp [Ne.symm (hpre kv hkv)]
  apply construct_congr
  · simp
  · intro k hk
    have hne : (k == "physics_object") = false := by simpa using hk
    simp [List.lookup_append, List.lookup_cons, hne]
  · simp [List.lookup_append, hnone, h]

end Congruence

/-! ## What a successful build is -/

/-- The objects an observable of a kind admits, the kind supporting the kinds
of object `ks`: without multiple objects among them, an object of a supported
kind; with them, a multiple object whose members are of supported kinds, two of
them for the angular distance. -/
def Admits (kind : ObservableKind) (ks : List ObjectClass) (p : PhysicsObject) : Prop :=
  if .multiple ∈ ks then
    match p with
    | .multiple all => (∀ m ∈ all, m.kind ∈ ks) ∧ (kind = .angularDistance → all.length = 2)
    | _ => False
  else p.kind ∈ ks

theorem word_injective : Function.Injective ObjectClass.word := by
  intro a b h
  cases a <;> cases b <;> simp [ObjectClass.word] at h ⊢

theorem contains_word_iff {ks : List ObjectClass} {k : ObjectClass} :
    (ks.map ObjectClass.word).contains k.word = true ↔ k ∈ ks := by
  simp [word_injective.eq_iff]

theorem contains_multiple_iff {ks : List ObjectClass} :
    (ks.map ObjectClass.word).contains "multiple" = true ↔ .multiple ∈ ks :=
  contains_word_iff (k := .multiple)

def pairCheck (kind : ObservableKind) (p : Option PhysicsObject) : Outcome Unit :=
  if kind = .angularDistance then
    match p with
    | some (.multiple all) => if all.length = 2 then pure () else .error .twoObjectsRequired
    | _ => pure ()
  else pure ()

section Checks

variable {ks : List ObjectClass} {p : PhysicsObject}

theorem checkObject_of_multiple_not_mem (hmul : .multiple ∉ ks) :
    checkObject (some p) (some (ks.map ObjectClass.word)) =
      if p.kind ∈ ks then .ok () else .error .unsupportedObject := by
  have hc : (ks.map ObjectClass.word).contains "multiple" = false :=
    Bool.eq_false_iff.mpr fun h => hmul (contains_multiple_iff.mp h)
  by_cases hk : p.kind ∈ ks
  · simp only [checkObject, hc, contains_word_iff.mpr hk, hk, Bool.not_false, ↓reduceIte]
  · have hk' : (ks.map ObjectClass.word).contains p.kind.word = false :=
      Bool.eq_false_iff.mpr fun h => hk (contains_word_iff.mp h)
    simp only [checkObject, hc, hk', hk, Bool.not_false, Bool.false_eq_true, ↓reduceIte]

theorem checkObject_of_multiple_mem (hmul : .multiple ∈ ks) :
    checkObject (some p) (some (ks.map ObjectClass.word)) =
      match p with
      | .multiple all => if ∀ m ∈ all, m.kind ∈ ks then .ok () else .error .unsupportedObject
      | p => .error (.noMember p.kind.name "all") := by
  have hc := contains_multiple_iff.mpr hmul
  cases p with
  | multiple all =>
      have hall : all.all (fun m => (ks.map ObjectClass.word).contains m.kind.word) =
          decide (∀ m ∈ all, m.kind ∈ ks) := by
        rw [Bool.eq_iff_iff, List.all_eq_true, decide_eq_true_eq]
        simp only [contains_word_iff]
      simp only [checkObject, hc, hall, Bool.not_true, Bool.false_eq_true, ↓reduceIte,
        decide_eq_true_eq]
  | _ => simp only [checkObject, hc, Bool.not_true, Bool.false_eq_true, ↓reduceIte]

theorem checks_ok_iff {kind : ObservableKind} :
    checkObject (some p) (some (ks.map ObjectClass.word)) = .ok () ∧
      pairCheck kind (some p) = .ok () ↔ Admits kind ks p := by
  unfold Admits
  by_cases hmul : .multiple ∈ ks
  · rw [checkObject_of_multiple_mem hmul, if_pos hmul]
    cases p with
    | multiple all =>
        by_cases hall : ∀ m ∈ all, m.kind ∈ ks
        · by_cases hangular : kind = .angularDistance
          · by_cases hlen : all.length = 2 <;> simp [pairCheck, hangular, hlen]
          · simp [pairCheck, hangular]
        · simp [hall]
    | _ => simp
  · rw [checkObject_of_multiple_not_mem hmul, if_neg hmul]
    by_cases hk : p.kind ∈ ks
    · -- a supported kind is not the multiple one, so the pair check has nothing to check
      have hpair : pairCheck kind (some p) = .ok () := by
        unfold pairCheck
        split
        · cases p with
          | multiple all => exact absurd hk hmul
          | _ => rfl
        · rfl
      simp [hk, hpair]
    · simp [hk]

end Checks

section Create

variable {kind : ObservableKind} {ks : List ObjectClass} {a sup : ObjectArg} {cn : Datum}
  {counts : SubjetCounts}

def created (kind : ObservableKind) (ks : List ObjectClass) (p : PhysicsObject) (cn : Datum)
    (counts : SubjetCounts) : Observable :=
  { kind, physicsObject := some p, className := (if cn.truthy then cn else .str kind.className),
    supported := some (ks.map ObjectClass.word), counts }

theorem create_eq (hks : kind.supported = some ks) :
    create kind a cn sup counts = (do
      let p ← objectOfArg a
      checkObject p (some (ks.map ObjectClass.word))
      pairCheck kind p
      pure ⟨kind, p, if cn.truthy then cn else .str kind.className,
        some (ks.map ObjectClass.word), counts⟩) := by
  simp only [create, hks]
  cases objectOfArg a with
  | error e => rfl
  | ok p =>
      dsimp only [bind, Except.bind, pure, Except.pure]
      cases checkObject p (some (ks.map ObjectClass.word)) with
      | error e => rfl
      | ok u =>
          -- the pair check is written inline, its continuation copied into each branch
          dsimp only [pairCheck]
          split
          · split
            · split <;> simp [*]
            · simp [*]
          · rfl

theorem create_eq_ok_iff (hks : kind.supported = some ks) {o : Observable} :
    create kind a cn sup counts = .ok o ↔
      ∃ p, objectOfArg a = .ok (some p) ∧ Admits kind ks p ∧ o = created kind ks p cn counts := by
  rw [create_eq hks]
  cases ha : objectOfArg a with
  | error e => simp
  | ok po =>
      cases po with
      | none => simp [checkObject]
      | some p =>
          have hread : (∃ q, (Except.ok (some p) : Outcome (Option PhysicsObject)) = .ok (some q) ∧
              Admits kind ks q ∧ o = created kind ks q cn counts) ↔
              Admits kind ks p ∧ o = created kind ks p cn counts := by
            constructor
            · rintro ⟨q, hq, hadmits, rfl⟩
              cases hq
              exact ⟨hadmits, rfl⟩
            · rintro ⟨hadmits, rfl⟩
              exact ⟨p, rfl, hadmits, rfl⟩
          rw [hread, ← checks_ok_iff]
          dsimp only [bind, Except.bind]
          cases checkObject (some p) (some (ks.map ObjectClass.word)) with
          | error e => simp
          | ok u =>
              cases pairCheck kind (some p) with
              | error e => simp
              | ok v =>
                  simp only [Outcome.pure_eq_ok, Except.ok.injEq, true_and, created]
                  exact ⟨fun h => h.symm, fun h => h.symm⟩

end Create

end Observable

/-! ## The steps of a build -/

def SubjetCounts.params : SubjetCounts → SubjetParams
  | .none => .none
  | .one _ => .n
  | .two _ _ => .mn

def countKwargs : SubjetParams → Int → Int → List (String × ObjectArg)
  | .none, _, _ => []
  | .n, _, n => [("n", .value (.int n))]
  | .mn, m, n => [("m", .value (.int m)), ("n", .value (.int n))]

def givenCounts : SubjetParams → Int → Int → SubjetCounts
  | .none, _, _ => .none
  | .n, _, n => .one (.int n)
  | .mn, m, n => .two (.int m) (.int n)

namespace Observable

theorem countsOf_params {kind : ObservableKind} {get : String → Option ObjectArg}
    {counts : SubjetCounts} (h : countsOf kind get = .ok counts) :
    counts.params = kind.subjetParams := by
  unfold countsOf at h
  cases hp : kind.subjetParams <;> simp only [hp] at h
  · cases h
    rfl
  · obtain ⟨n, -, h⟩ := Outcome.bind_eq_ok.mp h
    cases h
    rfl
  · obtain ⟨m, -, h⟩ := Outcome.bind_eq_ok.mp h
    obtain ⟨n, -, h⟩ := Outcome.bind_eq_ok.mp h
    cases h
    rfl

theorem parameters_of_ne_generic {kind : ObservableKind} (h : kind ≠ .generic) :
    kind.parameters =
      match kind.subjetParams with
      | .none => (["physics_object", "class_name"], ["physics_object"])
      | .n => (["n", "physics_object", "class_name"], ["n", "physics_object"])
      | .mn => (["m", "n", "physics_object", "class_name"], ["m", "n", "physics_object"]) := by
  cases kind <;> first | exact absurd rfl h | rfl

theorem construct_eq_ok {kind : ObservableKind} {args : List (String × ObjectArg)} {d : Datum}
    {o : Observable} (h : construct kind args = .ok o)
    (hcn : args.lookup "class_name" = some (.value d)) :
    ∃ counts, countsOf kind (fun p => args.lookup p) = .ok counts ∧
      create kind ((args.lookup "physics_object").getD (.value .none)) d
        ((args.lookup "supported_objects").getD (.value .none)) counts = .ok o := by
  revert h
  unfold construct
  cases kind.parameters with
  | mk params required =>
      intro h
      dsimp only at h
      obtain ⟨get, hget, h⟩ := Outcome.bind_eq_ok.mp h
      obtain rfl := bindArguments_eq_ok hget
      obtain ⟨counts, hcounts, h⟩ := Outcome.bind_eq_ok.mp h
      refine ⟨counts, hcounts, ?_⟩
      simpa only [hcn] using h

def classNameOf : Option ObjectArg → Datum
  | some (.value d) => d
  | some (.object o) => .str o.name
  | _ => .none

theorem construct_of_params {kind : ObservableKind} {args : List (String × ObjectArg)}
    (hparams : ∀ kv ∈ args, kv.1 ∈ kind.parameters.1)
    (hrequired : ∀ r ∈ kind.parameters.2, r ∈ args.map Prod.fst) :
    construct kind args = countsOf kind (fun p => args.lookup p) >>= fun counts =>
      create kind ((args.lookup "physics_object").getD (.value .none))
        (classNameOf (args.lookup "class_name"))
        ((args.lookup "supported_objects").getD (.value .none)) counts := by
  revert hparams hrequired
  unfold construct
  cases kind.parameters with
  | mk params required =>
      intro hparams hrequired
      dsimp only
      -- the class name is matched inline, the same match as the helper's
      rw [bindArguments_of_params hparams hrequired, Outcome.ok_bind]
      rfl

theorem countsOf_given {kind : ObservableKind} {get : String → Option ObjectArg} {m n : Int}
    (hn : kind.subjetParams ≠ .none → get "n" = some (.value (.int n)))
    (hm : kind.subjetParams = .mn → get "m" = some (.value (.int m))) :
    countsOf kind get = .ok (givenCounts kind.subjetParams m n) := by
  unfold countsOf
  cases hp : kind.subjetParams with
  | none => rfl
  | n => simp [hn (by simp [hp]), givenCounts]
  | mn => simp [hn (by simp [hp]), hm hp, givenCounts]

end Observable

end ColliderML
