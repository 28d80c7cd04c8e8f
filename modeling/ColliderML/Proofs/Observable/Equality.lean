import ColliderML.Proofs.PhysicsObject.LetterCase
import ColliderML.Proofs.Observable.Parse
import ColliderML.Command.Observables

/-!
# Comparing with a name

A physics object compares with a text by lower-cased names; the text is not
read. Comparing with a text that reads therefore agrees with comparing with what
it reads exactly when the text is that object's canonical name up to letter
case: `jet00` reads as `jet0` and still compares unequal to it. An observable
compares with a text by reading the text as its own kind, so only the objects
are compared: `jet0.pt` equals the text `jet0.eta` but not the observable that
text reads. The main result is `Command.name_comparison_against_reading`.
-/

namespace ColliderML

open PhysicsObject Text

namespace Observable

theorem ofNameAs_nil (kind : ObservableKind) (t : String) :
    ofNameAs kind t [] = ofNameAs kind t (nameKwargs (splitName t).2 []) := by
  unfold ofNameAs nameKwargs
  generalize splitName t = sp
  obtain ⟨po, cn⟩ := sp
  cases kind <;> simp [List.lookup]

theorem ofNameAs_nil_eq_ok {kind : ObservableKind} {t : String} {x : Observable}
    (hgen : kind ≠ .generic) (h : ofNameAs kind t [] = .ok x) :
    x.kind = kind ∧ ∃ po p, (splitName t).1 = some po ∧ ofName po = .ok p ∧
      x.physicsObject = some p := by
  rw [ofNameAs_nil] at h
  obtain ⟨args, hcons, hpo, hcn⟩ := ofNameAs_eq_ok h
  obtain ⟨counts, -, hcreate⟩ := construct_eq_ok hcons hcn
  rw [hpo, Option.getD_some] at hcreate
  obtain ⟨ks, hks⟩ := exists_supported_of_ne_generic hgen
  obtain ⟨p, hp, -, rfl⟩ := (create_eq_ok_iff hks).mp hcreate
  obtain ⟨po, hpo', hread⟩ := eq_some_of_objectOfArg_prefixArg hp
  exact ⟨rfl, po, p, hpo', hread, rfl⟩

theorem physicsObject_of_parse {a po cn : String} {x : Observable} {p : PhysicsObject}
    (hx : parse AliasTable.shipped a [] = .ok (some x)) (hsplit : splitName a = (some po, cn))
    (hp : ofName po = .ok p) : x.physicsObject = some p := by
  obtain ⟨kind, ks, po', cn', p', counts, hsplit', -, -, hread, -, -, -, rfl⟩ := parse_shipped_eq_ok hx
  rw [hsplit] at hsplit'
  cases hsplit'
  cases hp.symm.trans hread
  rfl

theorem equals_of_objects {x y : Observable} {p q : PhysicsObject} (hx : x.physicsObject = some p)
    (hy : y.physicsObject = some q) : equals x y = .ok (p.sameName q.name && x.kind == y.kind) := by
  rw [equals, hx, hy]
  rfl

end Observable

namespace Command

open Observable

theorem objectEquals_text (o : PhysicsObject) (t : String) :
    objectEquals o (.value (.str t)) = .ok (o.sameName t) := rfl

theorem objectEquals_object (o p : PhysicsObject) :
    objectEquals o (.object p) = .ok (o.sameName p.name) := rfl

/-- An observable read from a name compared with a text that reads: against the
observable the text reads, the objects and the kinds are compared; against the
text, which is read as the first observable's own kind, only the objects are, and
when the two kinds agree the two comparisons agree. -/
theorem compareObservable_parsed {a b : String} {x y : Observable}
    (hx : parse AliasTable.shipped a [] = .ok (some x))
    (hy : parse AliasTable.shipped b [] = .ok (some y)) :
    ∃ px py, x.physicsObject = some px ∧ y.physicsObject = some py ∧
      compareObservable (some x) (.observable y) = .ok (px.sameName py.name && x.kind == y.kind) ∧
      (∀ r, compareObservable (some x) (.value (.str b)) = .ok r → r = px.sameName py.name) ∧
      (x.kind = y.kind →
        compareObservable (some x) (.value (.str b)) = .ok (px.sameName py.name)) := by
  obtain ⟨kx, ksx, pox, cnx, px, cx, -, hkx, -, -, -, -, -, rfl⟩ := parse_shipped_eq_ok hx
  obtain ⟨ky, ksy, poy, cny, py, cy, hsy, -, -, hry, -, -, hby, rfl⟩ := parse_shipped_eq_ok hy
  refine ⟨px, py, rfl, rfl, equals_of_objects rfl rfl, fun r hr => ?_, fun hk => ?_⟩
  · -- the text is read as the first kind, with the object of its object part
    obtain ⟨other, hother, hr⟩ := Outcome.bind_eq_ok.mp hr
    obtain ⟨hkind, po, p, hpo, hread, hobj⟩ :=
      ofNameAs_nil_eq_ok (ne_generic_of_classKind hkx) hother
    rw [hsy] at hpo
    cases hpo
    cases hread.symm.trans hry
    rw [equals_of_objects rfl hobj, hkind] at hr
    cases hr
    simp [created]
  · -- of the same kind, the text is read as the observable it names
    have hk' : kx = ky := hk
    subst hk'
    have hread : ofNameAs kx b [] = .ok (created kx ksy py (.str cny) cy) := by
      rw [ofNameAs_nil, hsy]
      exact hby
    show ofNameAs kx b [] >>= equals _ = _
    rw [hread, Outcome.ok_bind, equals_of_objects rfl rfl]
    simp [created]

/-- What comparing with a name gives, for an object `o` and a text `t` that
reads as `p`, and for an observable `x` and a text `b` that reads as `y`. -/
structure ComparesWithReading (o : PhysicsObject) (t : String) (p : PhysicsObject)
    (x : Observable) (b : String) (y : Observable) : Prop where
  objects : objectEquals o (.value (.str t)) = .ok true ↔
    objectEquals o (.object p) = .ok true ∧ lower t = lower p.name
  observables : ∃ px py, x.physicsObject = some px ∧ y.physicsObject = some py ∧
    compareObservable (some x) (.observable y) = .ok (px.sameName py.name && x.kind == y.kind) ∧
    (∀ r, compareObservable (some x) (.value (.str b)) = .ok r → r = px.sameName py.name) ∧
    (x.kind = y.kind → compareObservable (some x) (.value (.str b)) = .ok (px.sameName py.name))

/-- Comparing with a name is comparing with what it reads only in part: an object
equals a text exactly when it equals the text's reading and the text is the
reading's canonical name up to letter case; an observable equals a text exactly
when its object equals the object of the text's reading, whatever kind the text
names, so it agrees with comparing with the reading when the kinds agree. -/
theorem name_comparison_against_reading {s t : String} {o p : PhysicsObject}
    (ho : ofName s = .ok o) (hp : ofName t = .ok p) {a b : String} {x y : Observable}
    (hx : parse AliasTable.shipped a [] = .ok (some x))
    (hy : parse AliasTable.shipped b [] = .ok (some y)) :
    ComparesWithReading o t p x b y := by
  refine ⟨?_, compareObservable_parsed hx hy⟩
  rw [objectEquals_text, objectEquals_object, Except.ok.injEq, Except.ok.injEq]
  exact sameName_text_iff ho hp

/-- The leading jet against the name with a padded index, and its transverse
momentum against the name of its pseudorapidity. -/
theorem name_comparison_against_reading_paddedIndex :
    ∃ (o p : PhysicsObject) (x y : Observable), ofName "jet0" = .ok o ∧ ofName "jet00" = .ok p ∧
      parse AliasTable.shipped "jet0.pt" [] = .ok (some x) ∧
      parse AliasTable.shipped "jet0.eta" [] = .ok (some y) ∧
      ComparesWithReading o "jet00" p x "jet0.eta" y := by
  obtain ⟨o, ho⟩ := Outcome.exists_eq_ok_of_isOk (x := ofName "jet0") (by decide +kernel)
  obtain ⟨p, hp⟩ := Outcome.exists_eq_ok_of_isOk (x := ofName "jet00") (by decide +kernel)
  obtain ⟨x, hx, -⟩ := Outcome.exists_eq_ok_some_of_view (g := fun _ => ()) (y := ())
    (x := parse AliasTable.shipped "jet0.pt" []) (by decide +kernel)
  obtain ⟨y, hy, -⟩ := Outcome.exists_eq_ok_some_of_view (g := fun _ => ()) (y := ())
    (x := parse AliasTable.shipped "jet0.eta" []) (by decide +kernel)
  exact ⟨o, p, x, y, ho, hp, hx, hy, name_comparison_against_reading ho hp hx hy⟩

/-- `jet00` reads as the leading jet yet compares unequal to it, and the leading
jet's transverse momentum compares equal to the text `jet0.eta` but unequal to
the pseudorapidity that text reads. -/
theorem padded_name_and_other_kind_compare_apart :
    ofName "jet0" = .ok (.single "jet" 0) ∧ ofName "jet00" = .ok (.single "jet" 0) ∧
      objectEquals (.single "jet" 0) (.value (.str "jet00")) = .ok false ∧
      objectEquals (.single "jet" 0) (.object (.single "jet" 0)) = .ok true ∧
      ∃ x y, parse AliasTable.shipped "jet0.pt" [] = .ok (some x) ∧
        parse AliasTable.shipped "jet0.eta" [] = .ok (some y) ∧
        compareObservable (some x) (.value (.str "jet0.eta")) = .ok true ∧
        compareObservable (some x) (.observable y) = .ok false := by
  have hname : (PhysicsObject.single "jet" 0).name = "jet0" := by
    simp [PhysicsObject.name]
    decide
  have hjet0 : ofName "jet0" = .ok (.single "jet" 0) := hname ▸ ofName_name (by decide)
  have hjet00 : ofName "jet00" = .ok (.single "jet" 0) := by
    let w : ObjectName.Side := ⟨['j', 'e', 't'], ['0', '0'], false, [], by simp,
      by simp [ObjectName.isLetter], by simp; decide, by simp, fun _ => rfl⟩
    have hw : w.object = .single "jet" 0 := by
      simp [w, ObjectName.Side.object, ObjectName.Side.single, ObjectName.digitsValue]
      decide
    have htext : String.ofList (w.text ++ []) = "jet00" := by decide
    rw [← htext, ← hw]
    exact ofName_text w rfl
  have hsame : (PhysicsObject.single "jet" 0).sameName (PhysicsObject.single "jet" 0).name = true := by
    simp [sameName]
  -- the two observables: of kinds pt and eta, both of the leading jet
  obtain ⟨x, hx, hxview⟩ := Outcome.exists_eq_ok_some_of_view
    (g := fun x => (x.kind, (compareObservable (some x) (.value (.str "jet0.eta"))).isOk))
    (y := (.pt, true)) (x := parse AliasTable.shipped "jet0.pt" []) (by decide +kernel)
  obtain ⟨y, hy, hyk⟩ := Outcome.exists_eq_ok_some_of_view (g := Observable.kind) (y := .eta)
    (x := parse AliasTable.shipped "jet0.eta" []) (by decide +kernel)
  obtain ⟨hxk, hxok⟩ := Prod.mk.inj hxview
  obtain ⟨px, py, hpx, hpy, hobs, htext, -⟩ := compareObservable_parsed hx hy
  have hsplitx : splitName "jet0.pt" = (some "jet0", "pt") := by decide +kernel
  have hsplity : splitName "jet0.eta" = (some "jet0", "eta") := by decide +kernel
  rw [physicsObject_of_parse hx hsplitx hjet0] at hpx
  rw [physicsObject_of_parse hy hsplity hjet0] at hpy
  cases hpx
  cases hpy
  obtain ⟨r, hr⟩ := Outcome.exists_eq_ok_of_isOk hxok
  refine ⟨hjet0, hjet00, ?_, ?_, x, y, hx, hy, ?_, ?_⟩
  · have hdiff : (PhysicsObject.single "jet" 0).sameName "jet00" = false := by
      simp only [sameName, hname]
      decide +kernel
    rw [objectEquals_text, hdiff]
  · rw [objectEquals_object, hsame]
  · rw [hr, htext r hr, hsame]
  · rw [hobs, hsame]
    simp [hxk, hyk]

end Command

end ColliderML
