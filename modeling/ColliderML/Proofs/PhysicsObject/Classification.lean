import ColliderML.Proofs.PhysicsObject.Grammar

/-!
# Classifying object names

A name is tested against four grammars in turn (single, collective, nested,
multiple) and read by the reader of the first that accepts it.  The grammars
are exclusive: a single and a collective name differ in their digits and colon,
a nested name is the only one with a dot, a multiple name the only one with a
comma.  So the reader of any name is the reader of the one grammar that accepts
it, and it always succeeds; a name no grammar accepts is refused as an invalid
name, and no other error can come out of reading.
-/

namespace ColliderML

namespace PhysicsObject

open ObjectName Text

def namedAs : ObjectClass → String → Bool
  | .single, s => isSingle s.toList
  | .collective, s => isCollective s.toList
  | .nested, s => isNested s.toList
  | .multiple, s => isMultipleName s

variable {s : String}

/-! ## A multiple name holds a comma -/

theorem comma_mem_of_multipleOfName {o : PhysicsObject} (h : multipleOfName s = .ok o) :
    ',' ∈ s.toList := by
  unfold multipleOfName at h
  split at h
  · next hc => simpa [String.contains_char_eq] using hc
  · cases h

theorem kind_of_multipleOfName {o : PhysicsObject} (h : multipleOfName s = .ok o) :
    o.kind = .multiple := by
  unfold multipleOfName at h
  split at h
  · obtain ⟨all, -, rfl⟩ := Outcome.map_eq_ok.mp h
    rfl
  · cases h

theorem exists_multipleOfName (h : isMultipleName s = true) :
    ∃ o, multipleOfName s = .ok o := by
  unfold isMultipleName at h
  split at h
  · next o ho => exact ⟨o, ho⟩
  · cases h

theorem isMultipleName_eq_false_of_comma_not_mem (h : ',' ∉ s.toList) :
    isMultipleName s = false := by
  rw [Bool.eq_false_iff]
  intro hm
  obtain ⟨o, ho⟩ := exists_multipleOfName hm
  exact h (comma_mem_of_multipleOfName ho)

/-! ## The grammars are exclusive -/

theorem isCollective_eq_false_of_isSingle (h : isSingle s.toList = true) :
    isCollective s.toList = false := by
  obtain ⟨w, e, hs, he, hw⟩ := exists_side_of_isSingle h
  rw [hs, isCollective_text_end w he, hw]
  rfl

theorem isSingle_eq_false_of_isCollective (h : isCollective s.toList = true) :
    isSingle s.toList = false := by
  obtain ⟨w, e, hs, he, hw⟩ := exists_side_of_isCollective h
  rw [hs, isSingle_text_end w he, hw]

theorem isNested_eq_false_of_dot_not_mem (h : '.' ∉ s.toList) : isNested s.toList = false :=
  Bool.eq_false_iff.mpr fun hn => h (dot_mem_of_isNested hn)

theorem isSingle_excludes (h : isSingle s.toList = true) :
    isCollective s.toList = false ∧ isNested s.toList = false ∧ isMultipleName s = false :=
  ⟨isCollective_eq_false_of_isSingle h,
    isNested_eq_false_of_dot_not_mem (dot_not_mem_of_isSingle h),
    isMultipleName_eq_false_of_comma_not_mem (comma_not_mem_of_isSingle h)⟩

theorem isCollective_excludes (h : isCollective s.toList = true) :
    isSingle s.toList = false ∧ isNested s.toList = false ∧ isMultipleName s = false :=
  ⟨isSingle_eq_false_of_isCollective h,
    isNested_eq_false_of_dot_not_mem (dot_not_mem_of_isCollective h),
    isMultipleName_eq_false_of_comma_not_mem (comma_not_mem_of_isCollective h)⟩

theorem isNested_excludes (h : isNested s.toList = true) :
    isSingle s.toList = false ∧ isCollective s.toList = false ∧ isMultipleName s = false := by
  have hdot := dot_mem_of_isNested h
  refine ⟨?_, ?_, isMultipleName_eq_false_of_comma_not_mem (comma_not_mem_of_isNested h)⟩
  · exact Bool.eq_false_iff.mpr fun hs => dot_not_mem_of_isSingle hs hdot
  · exact Bool.eq_false_iff.mpr fun hc => dot_not_mem_of_isCollective hc hdot

theorem isMultipleName_excludes (h : isMultipleName s = true) :
    isSingle s.toList = false ∧ isCollective s.toList = false ∧ isNested s.toList = false := by
  obtain ⟨o, ho⟩ := exists_multipleOfName h
  have hcomma := comma_mem_of_multipleOfName ho
  refine ⟨?_, ?_, ?_⟩
  · exact Bool.eq_false_iff.mpr fun hs => comma_not_mem_of_isSingle hs hcomma
  · exact Bool.eq_false_iff.mpr fun hc => comma_not_mem_of_isCollective hc hcomma
  · exact Bool.eq_false_iff.mpr fun hn => comma_not_mem_of_isNested hn hcomma

theorem namedAs_eq_false_of_ne {k k' : ObjectClass} (h : namedAs k s = true) (hne : k' ≠ k) :
    namedAs k' s = false := by
  cases k with
  | single =>
      obtain ⟨hc, hn, hm⟩ := isSingle_excludes h
      cases k' <;> first | exact absurd rfl hne | assumption
  | collective =>
      obtain ⟨hs, hn, hm⟩ := isCollective_excludes h
      cases k' <;> first | exact absurd rfl hne | assumption
  | nested =>
      obtain ⟨hs, hc, hm⟩ := isNested_excludes h
      cases k' <;> first | exact absurd rfl hne | assumption
  | multiple =>
      obtain ⟨hs, hc, hn⟩ := isMultipleName_excludes h
      cases k' <;> first | exact absurd rfl hne | assumption

theorem namedAs_unique {k₁ k₂ : ObjectClass} (h₁ : namedAs k₁ s = true)
    (h₂ : namedAs k₂ s = true) : k₁ = k₂ := by
  by_cases hne : k₁ = k₂
  · exact hne
  · have hfalse := namedAs_eq_false_of_ne h₁ (Ne.symm hne)
    rw [h₂] at hfalse
    contradiction

/-! ## Reading by the accepting grammar -/

theorem kind_object (w : Side) : w.object.kind = if w.single then .single else .collective := by
  unfold Side.object
  split <;> rfl

theorem ofName_of_isSingle (h : isSingle s.toList = true) :
    ∃ o, ofName s = .ok o ∧ o.kind = .single := by
  obtain ⟨w, e, hs, he, hw⟩ := exists_side_of_isSingle h
  refine ⟨w.object, ?_, by simp [kind_object, hw]⟩
  rw [← String.ofList_toList (s := s), hs]
  exact ofName_text w he

theorem ofName_of_isCollective (h : isCollective s.toList = true) :
    ∃ o, ofName s = .ok o ∧ o.kind = .collective := by
  obtain ⟨w, e, hs, he, hw⟩ := exists_side_of_isCollective h
  refine ⟨w.object, ?_, by simp [kind_object, hw]⟩
  rw [← String.ofList_toList (s := s), hs]
  exact ofName_text w he

theorem ofName_of_isNested (h : isNested s.toList = true) :
    ∃ o, ofName s = .ok o ∧ o.kind = .nested := by
  obtain ⟨w₁, w₂, e, hs, he⟩ := exists_sides_of_isNested h
  refine ⟨.nested w₁.object w₂.object, ?_, rfl⟩
  rw [← String.ofList_toList (s := s), hs]
  exact ofName_nested_text w₁ w₂ he

theorem ofName_of_isMultipleName (h : isMultipleName s = true) :
    ∃ o, ofName s = .ok o ∧ o.kind = .multiple := by
  obtain ⟨o, ho⟩ := exists_multipleOfName h
  obtain ⟨hsingle, hcollective, hnested⟩ := isMultipleName_excludes h
  refine ⟨o, ?_, kind_of_multipleOfName ho⟩
  simp only [ofName, hsingle, hcollective, hnested, h, Bool.false_eq_true, if_false, if_true]
  exact ho

theorem ofName_of_namedAs {k : ObjectClass} (h : namedAs k s = true) :
    ∃ o, ofName s = .ok o ∧ o.kind = k := by
  cases k with
  | single => exact ofName_of_isSingle h
  | collective => exact ofName_of_isCollective h
  | nested => exact ofName_of_isNested h
  | multiple => exact ofName_of_isMultipleName h

theorem ofName_of_not_namedAs (h : ∀ k, namedAs k s = false) :
    ofName s = .error (.invalidObjectName none s) := by
  have hsingle := h .single
  have hcollective := h .collective
  have hnested := h .nested
  have hmultiple := h .multiple
  simp only [namedAs] at hsingle hcollective hnested hmultiple
  simp [ofName, hsingle, hcollective, hnested, hmultiple]

theorem eq_invalidObjectName_of_ofName {e : Error} (h : ofName s = .error e) :
    e = .invalidObjectName none s := by
  by_cases hk : ∃ k, namedAs k s = true
  · obtain ⟨k, hk⟩ := hk
    obtain ⟨o, ho, -⟩ := ofName_of_namedAs hk
    rw [ho] at h
    cases h
  · have hnone : ∀ k, namedAs k s = false := fun k =>
      Bool.eq_false_iff.mpr fun hk' => hk ⟨k, hk'⟩
    rw [ofName_of_not_namedAs hnone] at h
    cases h
    rfl

/-- At most one grammar accepts a name; the reader then reads it as an object
of that kind, and otherwise refuses it as an invalid name. Every failure of
reading is a bad value. -/
theorem ofName_classification (s : String) :
    (∀ k₁ k₂, namedAs k₁ s = true → namedAs k₂ s = true → k₁ = k₂) ∧
      (∀ k, namedAs k s = true → ∃ o, ofName s = .ok o ∧ o.kind = k) ∧
      ((∀ k, namedAs k s = false) → ofName s = .error (.invalidObjectName none s)) ∧
      ∀ e, ofName s = .error e → e.kind = .badValue := by
  refine ⟨fun _ _ => namedAs_unique, fun _ => ofName_of_namedAs, ofName_of_not_namedAs, ?_⟩
  intro e he
  rw [eq_invalidObjectName_of_ofName he]
  rfl

end PhysicsObject

end ColliderML
