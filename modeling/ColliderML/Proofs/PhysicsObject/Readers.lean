import ColliderML.Proofs.PhysicsObject.Classification

/-!
# Reading a name as a given kind of object

Each kind of object has a reader of its own names. The single reader checks the
stripped text and takes it apart, so it reads a text exactly as it reads the
text stripped. The collective reader checks the stripped text but takes apart
the text as given: a collective name with blanks in front of it, or with blanks
after it other than one line feed, passes the check and has no parts, which
fails as a missing member (`Error.unmatchedGroups`, an attribute error). The
nested and multiple readers hand the sides of their names to the collective
reader, so they fail the same way on such a side. Every other failure of the
four readers is a bad value. The main result is
`PhysicsObject.name_readers_refuse_by_value_or_stray_blanks`.
-/

namespace ColliderML

namespace PhysicsObject

open ObjectName Text

/-- A text whose stripped text is a collective name, standing with blanks in
front of it or with blanks after it other than one line feed. -/
def StrayBlanks (p : String) : Prop :=
  isCollective (strip p).toList = true ∧ p.toList ≠ (strip p).toList ∧
    p.toList ≠ (strip p).toList ++ ['\n']

instance : DecidablePred StrayBlanks := fun _ =>
  inferInstanceAs (Decidable (_ ∧ _ ∧ _))

/-- How a reader refuses a name, given the pieces of the name it hands to the
collective reader: as a bad value, or for a piece with stray blanks. -/
def Refusal (pieces : List String) (e : Error) : Prop :=
  e.kind = .badValue ∨ (e = .unmatchedGroups ∧ ∃ p ∈ pieces, StrayBlanks p)

theorem Refusal.mono {pieces pieces' : List String} {e : Error} (h : Refusal pieces e)
    (hsub : ∀ p ∈ pieces, p ∈ pieces') : Refusal pieces' e := by
  rcases h with h | ⟨rfl, p, hp, hstray⟩
  · exact .inl h
  · exact .inr ⟨rfl, p, hsub p hp, hstray⟩

theorem refusal_invalidObjectName (pieces : List String) (k : Option ObjectClass) (s : String) :
    Refusal pieces (.invalidObjectName k s) :=
  .inl rfl

/-! ## The stripped text of a collective name -/

theorem stops_of_blank {trail : List Char} (h : ∀ c ∈ trail, isBlank c = true) : Stops trail := by
  intro c hc
  have hb : isBlank c = true := h c (List.mem_of_mem_head? hc)
  refine ⟨Bool.eq_false_iff.mpr fun hl => ?_, Bool.eq_false_iff.mpr fun hd => ?_, ?_⟩
  · rw [isBlank_eq_false_of_isLetter hl] at hb
    contradiction
  · rw [isBlank_eq_false_of_isDecimalDigit hd] at hb
    contradiction
  · rintro rfl
    revert hb
    decide +kernel

theorem exists_side_of_isCollective_strip {s : String} (h : isCollective (strip s).toList = true) :
    ∃ w : Side, (strip s).toList = w.text ∧ w.single = false := by
  obtain ⟨w, e, hcore, he, hw⟩ := exists_side_of_isCollective h
  obtain ⟨-, -, -, -, -, -, hlast⟩ := exists_blanks_around_strip s
  rcases atEnd_iff.mp he with rfl | rfl
  · exact ⟨w, by simpa using hcore, hw⟩
  · -- a line feed is a blank, and stripping leaves none at the end
    have hnl := hlast '\n' (by simp [hcore])
    rw [isBlank_newline] at hnl
    contradiction

/-- The collective reader finds the parts of a text whose stripped text is a
collective name exactly when nothing stands before the stripped text and at
most one line feed after it; they are then the parts of the stripped text. -/
theorem collectiveParts_of_isCollective_strip {s : String} (h : isCollective (strip s).toList = true) :
    collectiveParts s.toList =
      if s.toList = (strip s).toList ∨ s.toList = (strip s).toList ++ ['\n'] then
        collectiveParts (strip s).toList
      else none := by
  obtain ⟨w, hcore, -⟩ := exists_side_of_isCollective_strip h
  obtain ⟨lead, trail, hs, hlead, htrail, hfirst, -⟩ := exists_blanks_around_strip s
  rw [hcore] at hs hfirst ⊢
  cases lead with
  | cons c lead =>
      -- a blank in front leaves no letters to begin the branch
      have hc : isBlank c = true := hlead c (by simp)
      have hl : isLetter c = false :=
        Bool.eq_false_iff.mpr fun hl => by rw [isBlank_eq_false_of_isLetter hl] at hc; contradiction
      have hnone : collectiveParts s.toList = none := by
        rw [hs]
        simp [collectiveParts, spanLetters, hl]
      have hcond : ¬(s.toList = w.text ∨ s.toList = w.text ++ ['\n']) := by
        rintro (heq | heq)
        · have hlen := congrArg List.length (hs.symm.trans heq)
          simp at hlen
          omega
        · -- the text would begin with the blank and with the branch's first letter
          have hhead := congrArg List.head? (hs.symm.trans heq)
          rw [List.head?_append_of_ne_nil _ w.text_ne_nil] at hhead
          have hcb := hfirst c (by simp [← hhead])
          rw [hc] at hcb
          contradiction
      rw [hnone, if_neg hcond]
  | nil =>
      rw [List.nil_append] at hs
      have hparts : collectiveParts w.text = some (w.branch, w.start, w.stop) := by
        rw [← List.append_nil w.text, w.collectiveParts_text_append (stops_of_atEnd rfl)]
        rfl
      have hend : (s.toList = w.text ∨ s.toList = w.text ++ ['\n']) ↔ atEnd trail = true := by
        simp [hs, atEnd_iff]
      rw [hs, w.collectiveParts_text_append (stops_of_blank htrail), ← hs]
      by_cases hat : atEnd trail = true
      · rw [if_pos hat, if_pos (hend.mpr hat), hparts]
      · rw [if_neg hat, if_neg (mt hend.mp hat)]

/-! ## The readers one by one -/

section Readers

variable {s : String} {o : PhysicsObject} {e : Error}

theorem singleOfName_strip_eq_ok_iff : singleOfName (strip s) = .ok o ↔ singleOfName s = .ok o := by
  unfold singleOfName
  rw [strip_strip]
  split <;> simp

theorem kind_of_singleOfName (h : singleOfName s = .ok o) : o.kind = .single := by
  unfold singleOfName at h
  split at h
  · cases h
    rfl
  · cases h

theorem refusal_of_singleOfName (pieces : List String) (h : singleOfName s = .error e) :
    Refusal pieces e := by
  unfold singleOfName at h
  split at h
  · cases h
  · cases h
    exact refusal_invalidObjectName _ _ _

theorem collectiveOfName_of_isCollective (h : isCollective s.toList = true) :
    ∃ o, collectiveOfName s = .ok o := by
  obtain ⟨w, e, hs, he, hw⟩ := exists_side_of_isCollective h
  refine ⟨w.object, ?_⟩
  rw [← String.ofList_toList (s := s), hs]
  exact collectiveOfName_text w he hw

theorem collectiveOfName_eq (s : String) :
    collectiveOfName s =
      if isCollective (strip s).toList then
        if StrayBlanks s then .error .unmatchedGroups else collectiveOfName (strip s)
      else .error (.invalidObjectName (some .collective) s) := by
  by_cases hc : isCollective (strip s).toList = true
  · have hstrip := collectiveParts_of_isCollective_strip (s := strip s) (by rwa [strip_strip])
    rw [strip_strip] at hstrip
    simp only at hstrip
    have hstray : StrayBlanks s ↔
        ¬(s.toList = (strip s).toList ∨ s.toList = (strip s).toList ++ ['\n']) := by
      simp [StrayBlanks, hc]
    rw [if_pos hc]
    unfold collectiveOfName
    rw [strip_strip, if_pos hc, if_pos hc, collectiveParts_of_isCollective_strip hc]
    by_cases hs : StrayBlanks s
    · rw [if_pos hs, if_neg (hstray.mp hs)]
    · rw [if_neg hs, if_pos (not_not.mp (mt hstray.mpr hs))]
  · rw [if_neg hc]
    unfold collectiveOfName
    rw [if_neg hc]

theorem kind_of_collectiveOfName (h : collectiveOfName s = .ok o) : o.kind = .collective := by
  unfold collectiveOfName at h
  split at h
  · split at h
    · cases h
      rfl
    · cases h
  · cases h

theorem collectiveOfName_eq_ok_iff :
    collectiveOfName s = .ok o ↔ collectiveOfName (strip s) = .ok o ∧ ¬StrayBlanks s := by
  rw [collectiveOfName_eq]
  by_cases hc : isCollective (strip s).toList = true
  · rw [if_pos hc]
    by_cases hs : StrayBlanks s
    · simp [hs]
    · simp [hs]
  · -- a stripped text that is no collective name is refused either way
    have hstrip : collectiveOfName (strip s) = .error (.invalidObjectName (some .collective) (strip s)) := by
      rw [collectiveOfName_eq, strip_strip, if_neg hc]
    simp [hc, hstrip]

theorem collectiveOfName_unmatchedGroups_iff :
    collectiveOfName s = .error .unmatchedGroups ↔ StrayBlanks s := by
  rw [collectiveOfName_eq]
  by_cases hc : isCollective (strip s).toList = true
  · rw [if_pos hc]
    by_cases hs : StrayBlanks s
    · simp [hs]
    · -- without stray blanks the stripped text is read
      obtain ⟨o, ho⟩ := collectiveOfName_of_isCollective (s := strip s) hc
      simp [hs, ho]
  · have hs : ¬StrayBlanks s := fun hs => hc hs.1
    simp [hc, hs]

theorem refusal_of_collectiveOfName (h : collectiveOfName s = .error e) : Refusal [s] e := by
  rw [collectiveOfName_eq] at h
  by_cases hc : isCollective (strip s).toList = true
  · rw [if_pos hc] at h
    by_cases hs : StrayBlanks s
    · rw [if_pos hs] at h
      cases h
      exact .inr ⟨rfl, s, by simp, hs⟩
    · obtain ⟨o, ho⟩ := collectiveOfName_of_isCollective (s := strip s) hc
      rw [if_neg hs, ho] at h
      cases h
  · rw [if_neg hc] at h
    cases h
    exact refusal_invalidObjectName _ _ _

theorem refusal_of_partOfName (h : partOfName s = .error e) : Refusal [s] e := by
  unfold partOfName at h
  split at h
  · exact refusal_of_singleOfName _ h
  · exact refusal_of_collectiveOfName h

theorem kind_of_nestedOfName (h : nestedOfName s = .ok o) : o.kind = .nested := by
  unfold nestedOfName at h
  split at h
  · split at h
    · obtain ⟨main, -, h⟩ := Outcome.bind_eq_ok.mp h
      obtain ⟨sub, -, h⟩ := Outcome.bind_eq_ok.mp h
      cases h
      rfl
    · cases h
  · cases h

theorem refusal_of_nestedOfName (h : nestedOfName s = .error e) : Refusal (splitOn s ".") e := by
  unfold nestedOfName at h
  split at h
  · split at h
    · next main sub hsplit =>
        -- the main side is read first, then the sub side
        rcases Outcome.bind_eq_error.mp h with hmain | ⟨m, -, h⟩
        · exact (refusal_of_partOfName hmain).mono (by simp [hsplit])
        · rcases Outcome.bind_eq_error.mp h with hsub | ⟨_, -, h⟩
          · exact (refusal_of_partOfName hsub).mono (by simp [hsplit])
          · cases h
    · cases h
      exact .inl rfl
  · cases h
    exact refusal_invalidObjectName _ _ _

theorem refusal_of_memberOfName (h : memberOfName s = .error e) : Refusal (splitOn s ".") e := by
  unfold memberOfName at h
  split at h
  · exact refusal_of_singleOfName _ h
  · split at h
    · next hc =>
        obtain ⟨o, ho⟩ := collectiveOfName_of_isCollective hc
        rw [ho] at h
        cases h
    · exact refusal_of_nestedOfName h

theorem refusal_of_multipleOfName (h : multipleOfName s = .error e) :
    Refusal ((splitOn s ",").flatMap fun m => splitOn m ".") e := by
  unfold multipleOfName at h
  split at h
  · obtain ⟨m, hm, hmember⟩ := Outcome.exists_mem_of_mapM_eq_error (Outcome.map_eq_error.mp h)
    exact (refusal_of_memberOfName hmember).mono fun p hp => List.mem_flatMap.mpr ⟨m, hm, hp⟩
  · cases h
    exact refusal_invalidObjectName _ _ _

end Readers

/-! ## The four readers -/

def collectivePieces : ObjectClass → String → List String
  | .single, _ => []
  | .collective, s => [s]
  | .nested, s => splitOn s "."
  | .multiple, s => (splitOn s ",").flatMap fun m => splitOn m "."

/-- Reading a name as a kind gives an object of that kind, or refuses the name
as a bad value, or for a piece handed to the collective reader with stray
blanks. The single reader reads a text as it reads the text stripped; the
collective reader does too when the text has no stray blanks, and fails on stray
blanks, and only there, as a missing member. -/
theorem name_readers_refuse_by_value_or_stray_blanks (s : String) :
    (∀ k o, ofNameAs k s = .ok o → o.kind = k) ∧
      (∀ k e, ofNameAs k s = .error e → Refusal (collectivePieces k s) e) ∧
      (∀ o, singleOfName s = .ok o ↔ singleOfName (strip s) = .ok o) ∧
      (∀ o, collectiveOfName s = .ok o ↔ collectiveOfName (strip s) = .ok o ∧ ¬StrayBlanks s) ∧
      (collectiveOfName s = .error .unmatchedGroups ↔ StrayBlanks s) := by
  refine ⟨fun k o h => ?_, fun k e h => ?_, fun o => singleOfName_strip_eq_ok_iff.symm,
    fun o => collectiveOfName_eq_ok_iff, collectiveOfName_unmatchedGroups_iff⟩
  · unfold ofNameAs at h
    cases k with
    | single => exact kind_of_singleOfName h
    | collective => exact kind_of_collectiveOfName h
    | nested => exact kind_of_nestedOfName h
    | multiple => exact kind_of_multipleOfName h
  · unfold ofNameAs at h
    cases k with
    | single => exact refusal_of_singleOfName [] h
    | collective => exact refusal_of_collectiveOfName h
    | nested => exact refusal_of_nestedOfName h
    | multiple => exact refusal_of_multipleOfName h

/-- A collective name with a blank in front: stray blanks, refused as a missing member. -/
theorem name_readers_refuse_by_value_or_stray_blanks_leadingBlank :
    StrayBlanks " jet" ∧ collectiveOfName " jet" = .error .unmatchedGroups :=
  have hs : StrayBlanks " jet" := by decide +kernel
  ⟨hs, (name_readers_refuse_by_value_or_stray_blanks " jet").2.2.2.2.mpr hs⟩

/-- The collective reader refuses ` jet` with an attribute error, while it reads
` jet` stripped, a collective name. -/
theorem collective_reader_fails_on_leading_blank :
    (match collectiveOfName " jet" with
      | .error e => e.kind.className == "AttributeError"
      | .ok _ => false) = true ∧
    strip " jet" = "jet" ∧ ∃ o, collectiveOfName "jet" = .ok o ∧ o.kind = .collective := by
  refine ⟨by decide +kernel, by decide +kernel, ?_⟩
  obtain ⟨o, ho⟩ := collectiveOfName_of_isCollective (s := "jet") (by decide +kernel)
  exact ⟨o, ho, kind_of_collectiveOfName ho⟩

end PhysicsObject

end ColliderML
