import ColliderML.Proofs.Observable.Parse

/-!
# The round trip of observable names

An observable name is an object name and a class name around the last dot.
Reading it under the shipped alias table looks the class name up (or reads a τ
name), reads the object name and builds the observable.  The build sees the
object name only through the object it reads, so a name whose object part is
the canonical name of the same object builds the same observable: reading the
canonical name `p.name ++ "." ++ cn` of an observable read from any name gives
it back, with the same keyword arguments.  The configuration record names the
object, the class name and the subjet counts, which is all the build needs, so
an observable is also built again from its configuration.
-/

namespace ColliderML

namespace Observable

open Text PhysicsObject

/-! ## Reading depends on the object name only through its object -/

theorem ofNameAs_congr {kind : ObservableKind} {s t po₁ po₂ cn : String}
    {kw : List (String × ObjectArg)} (hs : splitName s = (some po₁, cn))
    (ht : splitName t = (some po₂, cn)) (hread : ofName po₁ = ofName po₂) :
    ofNameAs kind s kw = ofNameAs kind t kw := by
  have hobj : objectOfArg (.value (.str po₁)) = objectOfArg (.value (.str po₂)) := by
    simp only [objectOfArg, hread]
  unfold ofNameAs
  rw [hs, ht]
  dsimp only
  generalize ObjectArg.value (Datum.str po₁) = a₁ at hobj ⊢
  generalize ObjectArg.value (Datum.str po₂) = a₂ at hobj ⊢
  cases kind <;> dsimp only
  case angularDistance => (refine construct_object_congr hobj [] _ ?_; simp)
  case tauN =>
    split
    · split <;> simp only [Outcome.pure_eq_ok, Outcome.ok_bind]
      · refine construct_object_congr hobj [_] _ ?_
        simp
      · congr 1
        funext v
        refine construct_object_congr hobj [_] _ ?_
        simp
    · rfl
  case tauMN =>
    split
    · -- the two counts come from the keyword arguments or the digits, alike on both sides
      split <;> split <;> simp only [Outcome.pure_eq_ok, Outcome.ok_bind] <;>
        first
        | (refine construct_object_congr hobj [_, _] _ ?_; simp)
        | (congr 1
           funext v
           first
           | (refine construct_object_congr hobj [_, _] _ ?_; simp)
           | (congr 1
              funext w
              (refine construct_object_congr hobj [_, _] _ ?_; simp)))
    · rfl
  -- every other kind passes the keyword arguments on after the object and class name
  all_goals
    split
    · rfl
    · (refine construct_object_congr hobj [] _ ?_; simp)

/-! ## Building again from the configuration -/

theorem ofConfig_created {kind : ObservableKind} {ks : List ObjectClass} {p : PhysicsObject}
    {cn : Datum} {counts : SubjetCounts} (hgen : kind ≠ .generic)
    (hks : kind.supported = some ks) (hread : ofName p.name = .ok p)
    (hadmits : Admits kind ks p) (hparams : counts.params = kind.subjetParams)
    (hcn : cn.truthy = true) :
    ofConfig kind (created kind ks p cn counts).config.fields =
      .ok (created kind ks p cn counts) := by
  have hobj : objectOfArg (.value (.str p.name)) = .ok (some p) := by
    simp [objectOfArg, hread, Except.map]
  have hcreate : ∀ sup, create kind (.value (.str p.name)) cn sup counts =
      .ok (created kind ks p cn counts) :=
    fun _ => (create_eq_ok_iff hks).mpr ⟨p, hobj, hadmits, rfl⟩
  unfold ofConfig construct
  rw [parameters_of_ne_generic hgen]
  -- the counts stand under the names of the kind's parameters
  cases counts with
  | none =>
      have hsub : kind.subjetParams = .none := hparams.symm
      have hbind : bindArguments kind.initName ["physics_object", "class_name"] ["physics_object"]
          [("physics_object", ObjectArg.value (.str p.name)), ("class_name", .value cn)] = .ok _ :=
        bindArguments_of_params (by simp) (by simp)
      simp [created, config, hcn, hsub, Datum.fields, Datum.ofOption, hbind, countsOf,
        List.lookup, hcreate]
  | one n =>
      have hsub : kind.subjetParams = .n := hparams.symm
      have hbind : bindArguments kind.initName ["n", "physics_object", "class_name"]
          ["n", "physics_object"]
          [("physics_object", ObjectArg.value (.str p.name)), ("class_name", .value cn), ("n", .value n)] =
          .ok _ :=
        bindArguments_of_params (by simp) (by simp)
      simp [created, config, hcn, hsub, Datum.fields, Datum.ofOption, hbind, countsOf,
        List.lookup, hcreate]
  | two m n =>
      have hsub : kind.subjetParams = .mn := hparams.symm
      have hbind : bindArguments kind.initName ["m", "n", "physics_object", "class_name"]
          ["m", "n", "physics_object"]
          [("physics_object", ObjectArg.value (.str p.name)), ("class_name", .value cn), ("m", .value m),
            ("n", .value n)] = .ok _ :=
        bindArguments_of_params (by simp) (by simp)
      simp [created, config, hcn, hsub, Datum.fields, Datum.ofOption, hbind, countsOf,
        List.lookup, hcreate]

/-! ## The round trip -/

/-- Every observable read from a name under the shipped table, with any keyword
arguments, is read back unchanged from its canonical name with the same keyword
arguments, and built back unchanged from its configuration. -/
theorem parse_canonical_roundTrip {s : String} {kw : List (String × ObjectArg)}
    {o : Observable} (h : parse AliasTable.shipped s kw = .ok (some o)) :
    parse AliasTable.shipped o.name kw = .ok (some o) ∧
      ofConfig o.kind o.config.fields = .ok o := by
  obtain ⟨kind, ks, po, cn, p, counts, hsplit, hkind, hks, hread, hadmits, hparams, hbuild, rfl⟩ :=
    parse_shipped_eq_ok h
  have hreadName : ofName p.name = .ok p := ofName_name (readable_of_ofName hread)
  have hcn : cn ≠ "" := by
    rintro rfl
    rw [classKind_shipped_empty] at hkind
    cases hkind
  have htruthy : (Datum.str cn).truthy = true := by simpa [Datum.truthy] using hcn
  refine ⟨?_, ofConfig_created (ne_generic_of_classKind hkind) hks hreadName hadmits hparams
    htruthy⟩
  -- the canonical name is the object's canonical name and the class name around a dot
  have hname : (created kind ks p (.str cn) counts).name = p.name ++ "." ++ cn := by
    simp [name, created, htruthy, Datum.display]
  have hdot : '.' ∉ cn.toList := by
    have hlast := dot_not_mem_className s
    rwa [hsplit] at hlast
  have hsplit' : splitName (p.name ++ "." ++ cn) = (some p.name, cn) := splitName_append hdot
  have hnone : p.name ++ "." ++ cn ≠ "None" := by
    intro heq
    have hmem : '.' ∈ (p.name ++ "." ++ cn).toList := by simp
    rw [heq] at hmem
    revert hmem
    decide
  -- the canonical name is read as the original one: same class name, same object
  rw [hname, parse_eq hnone, hsplit', hkind]
  dsimp only
  rw [ofNameAs_congr hsplit' hsplit (hreadName.trans hread.symm), hbuild]
  rfl

/-- A τ ratio read for a collective object from the digits of its class name. -/
theorem parse_canonical_roundTrip_tauRatio :
    let o := created .tauMN [.single, .collective] (.collective "FatJet" (some 1) (some 3))
      (.str "Tau21") (.two (.int 2) (.int 1))
    parse AliasTable.shipped "FatJet1:3.Tau21" [] = .ok (some o) ∧
      (parse AliasTable.shipped o.name [] = .ok (some o) ∧
        ofConfig o.kind o.config.fields = .ok o) := by
  intro o
  have hsplit : splitName "FatJet1:3.Tau21" = (some "FatJet1:3", "Tau21") := by
    have h : splitName ("FatJet1:3" ++ "." ++ "Tau21") = (some "FatJet1:3", "Tau21") :=
      splitName_append (by decide)
    rwa [show "FatJet1:3" ++ "." ++ "Tau21" = "FatJet1:3.Tau21" from rfl] at h
  have hfind : AliasTable.shipped.find? "Tau21" = none := by decide +kernel
  have hkind : classKind AliasTable.shipped "Tau21" = some .tauMN := by decide +kernel
  have hread : ofName "FatJet1:3" = .ok (.collective "FatJet" (some 1) (some 3)) := by
    have hname : (PhysicsObject.collective "FatJet" (some 1) (some 3)).name = "FatJet1:3" := by
      simp [PhysicsObject.name, collectiveName]
      decide
    exact hname ▸ ofName_name (by decide)
  have hcounts : nameCounts AliasTable.shipped .tauMN "Tau21" 0 0 =
      .ok (.two (.int 2) (.int 1)) := by
    have h₂ : digitOf (fromEnd "Tau21" 2) = .ok 2 := rfl
    have h₁ : digitOf (fromEnd "Tau21" 1) = .ok 1 := rfl
    simp only [nameCounts, hfind, digitCounts, h₂, h₁, Outcome.ok_bind, Outcome.pure_eq_ok]
  have h := parse_shipped_of_admits hsplit hkind rfl hread (by simp [Admits, PhysicsObject.kind])
    hcounts
  simp only [kwargParams, hfind, countKwargs] at h
  exact ⟨h, parse_canonical_roundTrip h⟩

end Observable

end ColliderML
