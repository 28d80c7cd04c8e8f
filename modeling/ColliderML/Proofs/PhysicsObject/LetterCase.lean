import ColliderML.Proofs.PhysicsObject.Readers
import ColliderML.Proofs.PhysicsObject.RoundTrip

/-!
# Names read without regard to letter case

`String.toLower` turns the ASCII capitals into small letters and leaves every
other character as it is. The grammar of names tells characters apart only as
ASCII letters, decimal digits, blanks, and the marks `:`, `.`, `,` and line
feed, and the map keeps each of these classes, so each reader commutes with it:
a name in ASCII lower case reads as the object with its branches in lower case.
The characters of a name that reads are ASCII characters and decimal digits, on
which the full lower case of `Text.lower` is the ASCII one. The main result is
`PhysicsObject.ofName_lower`.
-/

namespace ColliderML

open Text

namespace Text

theorem toList_toLower (s : String) : s.toLower.toList = s.toList.map Char.toLower :=
  String.toList_map

theorem ofList_map_toLower (cs : List Char) :
    String.ofList (cs.map Char.toLower) = (String.ofList cs).toLower := by
  rw [← String.toList_inj, toList_toLower, String.toList_ofList, String.toList_ofList]

theorem lower_eq_toLower {s : String} (h : ∀ c ∈ s.toList, lowerChar c = [c.toLower]) :
    lower s = s.toLower := by
  rw [← String.toList_inj, lower, String.toList_ofList, toList_toLower,
    flatMap_lowerChar_of_forall h]

theorem mem_splitList {c d : Char} {s acc : List Char} (hc : c ∈ acc ++ s) :
    c = d ∨ ∃ piece ∈ splitList [d] s acc, c ∈ piece := by
  induction s generalizing acc with
  | nil =>
      rw [splitList_nil]
      exact .inr ⟨acc.reverse, by simp, by simpa using hc⟩
  | cons x s ih =>
      by_cases hx : x = d
      · subst hx
        rw [splitList_sep]
        rcases List.mem_append.mp hc with hc | hc
        · exact .inr ⟨acc.reverse, by simp, by simpa using hc⟩
        · rcases List.mem_cons.mp hc with rfl | hc
          · exact .inl rfl
          · rcases ih (show c ∈ ([] : List Char) ++ s by simpa using hc) with hd | ⟨piece, hp, hcp⟩
            · exact .inl hd
            · exact .inr ⟨piece, List.mem_cons_of_mem _ hp, hcp⟩
      · rw [splitList_cons_of_ne hx]
        exact ih (by simp only [List.mem_append, List.mem_cons] at hc ⊢; tauto)

theorem mem_splitOn {c d : Char} {sep s : String} (hsep : sep.toList = [d]) (hc : c ∈ s.toList) :
    c = d ∨ ∃ piece ∈ splitOn s sep, c ∈ piece.toList := by
  rw [splitOn_eq hsep]
  rcases mem_splitList (d := d) (show c ∈ ([] : List Char) ++ s.toList by simpa using hc) with
    hd | ⟨piece, hp, hcp⟩
  · exact .inl hd
  · exact .inr ⟨String.ofList piece, List.mem_map_of_mem hp, by simpa using hcp⟩

end Text

namespace ObjectName

/-! ## The classes of characters under ASCII lower case -/

theorem isLetter_of_isUpper {c : Char} (h : c.isUpper = true) : isLetter c = true := by
  have hc := isUpper_iff.mp h
  exact isLetter_iff.mpr (.inr hc)

theorem isLetter_toLower_eq (c : Char) : isLetter c.toLower = isLetter c := by
  cases hu : c.isUpper with
  | false => rw [toLower_of_not_isUpper hu]
  | true =>
      rw [isLetter_of_isUpper hu, PhysicsObject.isLetter_toLower (isLetter_of_isUpper hu)]

theorem toLower_keeps {p : Char → Bool} (hp : ∀ c, isLetter c = true → p c = false) (c : Char) :
    p c.toLower = p c := by
  cases hu : c.isUpper with
  | false => rw [toLower_of_not_isUpper hu]
  | true =>
      have hl := isLetter_of_isUpper hu
      rw [hp c hl, hp _ ((isLetter_toLower_eq c).trans hl)]

theorem toLower_eq_iff {c d : Char} (hd : isLetter d = false) : c.toLower = d ↔ c = d := by
  have hkeep := toLower_keeps (p := fun x => x == d)
    (fun x hx => beq_eq_false_iff_ne.mpr fun hxd => by rw [hxd, hd] at hx; contradiction) c
  simpa using hkeep

theorem isDecimalDigit_comp_toLower : isDecimalDigit ∘ Char.toLower = isDecimalDigit :=
  funext (toLower_keeps fun _ => isDecimalDigit_eq_false_of_isLetter)

theorem digitValue?_toLower (c : Char) : digitValue? c.toLower = digitValue? c := by
  cases hu : c.isUpper with
  | false => rw [toLower_of_not_isUpper hu]
  | true =>
      -- a letter has no digit value, before or after lower case
      have hl := isLetter_of_isUpper hu
      have h₁ := isDecimalDigit_eq_false_of_isLetter hl
      have h₂ := isDecimalDigit_eq_false_of_isLetter ((isLetter_toLower_eq c).trans hl)
      simp only [isDecimalDigit, Option.isSome_eq_false_iff, Option.isNone_iff_eq_none] at h₁ h₂
      rw [h₁, h₂]

/-! ## The grammar under ASCII lower case -/

section Grammar

variable (cs : List Char)

theorem spanLetters_map_toLower :
    spanLetters (cs.map Char.toLower) =
      ((spanLetters cs).1.map Char.toLower, (spanLetters cs).2.map Char.toLower) := by
  have hp : isLetter ∘ Char.toLower = isLetter := funext isLetter_toLower_eq
  simp only [spanLetters, List.takeWhile_map, List.dropWhile_map, hp]

theorem spanDigits_map_toLower :
    spanDigits (cs.map Char.toLower) =
      ((spanDigits cs).1.map Char.toLower, (spanDigits cs).2.map Char.toLower) := by
  simp only [spanDigits, List.takeWhile_map, List.dropWhile_map, isDecimalDigit_comp_toLower]

theorem atEnd_map_toLower : atEnd (cs.map Char.toLower) = atEnd cs := by
  rcases cs with _ | ⟨c, _ | ⟨d, cs⟩⟩
  · rfl
  · simp [atEnd, toLower_eq_iff (d := '\n') (by decide)]
  · simp [atEnd]

theorem dropColon_map_toLower : dropColon (cs.map Char.toLower) = (dropColon cs).map Char.toLower := by
  cases cs with
  | nil => rfl
  | cons c cs =>
      by_cases hc : c = ':'
      · subst hc
        rfl
      · have hc' : c.toLower ≠ ':' := fun h => hc ((toLower_eq_iff (by decide)).mp h)
        simp [dropColon, hc, hc']

theorem isSingle_map_toLower : isSingle (cs.map Char.toLower) = isSingle cs := by
  simp only [isSingle, spanLetters_map_toLower, spanDigits_map_toLower, atEnd_map_toLower,
    List.isEmpty_map]

theorem isCollective_map_toLower : isCollective (cs.map Char.toLower) = isCollective cs := by
  simp only [isCollective, spanLetters_map_toLower, spanDigits_map_toLower, atEnd_map_toLower,
    List.isEmpty_map]
  -- what is left is the colon after the start digits
  generalize (spanDigits (spanLetters cs).2).2 = r
  cases r with
  | nil => rfl
  | cons c r =>
      by_cases hc : c = ':'
      · subst hc
        simp [spanDigits_map_toLower, atEnd_map_toLower]
      · have hc' : c.toLower ≠ ':' := fun h => hc ((toLower_eq_iff (by decide)).mp h)
        simp [hc, hc']

theorem spanPart_map_toLower :
    spanPart (cs.map Char.toLower) = (spanPart cs).map (List.map Char.toLower) := by
  simp only [spanPart, spanLetters_map_toLower, List.isEmpty_map, spanDigits_map_toLower,
    dropColon_map_toLower]
  split <;> rfl

theorem isNested_map_toLower : isNested (cs.map Char.toLower) = isNested cs := by
  unfold isNested
  rw [spanPart_map_toLower]
  -- the first part must stop at a dot, and the second at the end
  rcases spanPart cs with _ | _ | ⟨c, rest⟩
  · rfl
  · rfl
  · by_cases hc : c = '.'
    · subst hc
      have hdot : Char.toLower '.' = '.' := rfl
      simp only [Option.map_some, List.map_cons, hdot]
      rw [spanPart_map_toLower]
      cases spanPart rest with
      | none => rfl
      | some r => exact atEnd_map_toLower r
    · have hc' : c.toLower ≠ '.' := fun h => hc ((toLower_eq_iff (by decide)).mp h)
      simp [hc, hc']

theorem collectiveParts_map_toLower :
    collectiveParts (cs.map Char.toLower) = (collectiveParts cs).map fun (l, d₁, d₂) =>
      (l.map Char.toLower, d₁.map Char.toLower, d₂.map Char.toLower) := by
  simp only [collectiveParts, spanLetters_map_toLower, spanDigits_map_toLower,
    dropColon_map_toLower, atEnd_map_toLower, List.isEmpty_map]
  split <;> rfl

theorem singleParts_map_toLower :
    singleParts (cs.map Char.toLower) = (singleParts cs).map fun (l, d) =>
      (l.map Char.toLower, d.map Char.toLower) := by
  simp only [singleParts, spanLetters_map_toLower, spanDigits_map_toLower, atEnd_map_toLower,
    List.isEmpty_map]
  split <;> rfl

theorem digitsValue_map_toLower : digitsValue (cs.map Char.toLower) = digitsValue cs := by
  simp only [digitsValue, List.foldl_map, digitValue?_toLower]

end Grammar

end ObjectName

namespace Text

open ObjectName

theorem dropBlanks_map_toLower (cs : List Char) :
    dropBlanks (cs.map Char.toLower) = (dropBlanks cs).map Char.toLower := by
  induction cs with
  | nil => rfl
  | cons c cs ih =>
      have hb := toLower_keeps (fun _ => isBlank_eq_false_of_isLetter) c
      rw [List.map_cons, dropBlanks, dropBlanks, hb]
      split
      · exact ih
      · rfl

theorem strip_toLower (s : String) : strip s.toLower = (strip s).toLower := by
  rw [← String.toList_inj, toList_toLower]
  simp only [strip, String.toList_ofList, toList_toLower, ← List.map_reverse, dropBlanks_map_toLower]

theorem splitList_map_toLower {d : Char} (hd : isLetter d = false) (cs acc : List Char) :
    splitList [d] (cs.map Char.toLower) (acc.map Char.toLower) =
      (splitList [d] cs acc).map (List.map Char.toLower) := by
  induction cs generalizing acc with
  | nil => simp [splitList_nil, List.map_reverse]
  | cons c cs ih =>
      by_cases hc : c = d
      · subst hc
        have hlow : c.toLower = c := (toLower_eq_iff hd).mpr rfl
        rw [List.map_cons, hlow, splitList_sep, splitList_sep, List.map_cons, List.map_reverse]
        simpa using ih []
      · have hc' : c.toLower ≠ d := fun h => hc ((toLower_eq_iff hd).mp h)
        rw [List.map_cons, splitList_cons_of_ne hc', splitList_cons_of_ne hc, ← ih (c :: acc)]
        rfl

theorem splitOn_toLower {d : Char} {sep : String} (hsep : sep.toList = [d]) (hd : isLetter d = false)
    (s : String) : splitOn s.toLower sep = (splitOn s sep).map String.toLower := by
  have hsplit := splitList_map_toLower hd s.toList []
  rw [List.map_nil] at hsplit
  rw [splitOn_eq hsep, splitOn_eq hsep, toList_toLower, hsplit, List.map_map, List.map_map]
  exact List.map_congr_left fun piece _ => ofList_map_toLower piece

theorem contains_toLower {d : Char} (hd : isLetter d = false) (s : String) :
    s.toLower.contains d = s.contains d := by
  simp [String.contains_char_eq, toList_toLower, toLower_eq_iff hd]

end Text

namespace PhysicsObject

open ObjectName Text

/-! ## The readers under ASCII lower case -/

theorem ofList_map_toLower_of_letters {l : List Char} (hl : ∀ c ∈ l, isLetter c = true) :
    String.ofList (l.map Char.toLower) = lower (String.ofList l) := by
  rw [lower, String.toList_ofList, flatMap_lowerChar_of_lt fun c hc => toNat_lt_of_isLetter (hl c hc)]

theorem boundOf_map_toLower (ds : List Char) : boundOf (ds.map Char.toLower) = boundOf ds := by
  simp [boundOf, digitsValue_map_toLower]

section Readers

variable {s : String} {p : PhysicsObject}

theorem singleOfName_toLower (h : singleOfName s = .ok p) :
    singleOfName s.toLower = .ok p.lowerBranches := by
  unfold singleOfName at h ⊢
  rw [strip_toLower, toList_toLower, singleParts_map_toLower]
  cases hparts : singleParts (strip s).toList with
  | none =>
      rw [hparts] at h
      cases h
  | some ld =>
      obtain ⟨l, d⟩ := ld
      rw [hparts] at h
      cases h
      obtain ⟨-, hl⟩ := branch_of_singleParts hparts
      simp only [Option.map_some, lowerBranches, digitsValue_map_toLower,
        ofList_map_toLower_of_letters hl]

theorem collectiveOfName_toLower (h : collectiveOfName s = .ok p) :
    collectiveOfName s.toLower = .ok p.lowerBranches := by
  unfold collectiveOfName at h ⊢
  rw [strip_toLower, toList_toLower, isCollective_map_toLower, toList_toLower,
    collectiveParts_map_toLower]
  split at h
  · next hc =>
      rw [if_pos hc]
      cases hparts : collectiveParts s.toList with
      | none =>
          rw [hparts] at h
          cases h
      | some parts =>
          obtain ⟨l, d₁, d₂⟩ := parts
          rw [hparts] at h
          cases h
          obtain ⟨-, hl⟩ := branch_of_collectiveParts hparts
          simp only [Option.map_some, lowerBranches, boundOf_map_toLower,
            ofList_map_toLower_of_letters hl]
  · cases h

theorem partOfName_toLower (h : partOfName s = .ok p) :
    partOfName s.toLower = .ok p.lowerBranches := by
  unfold partOfName at h ⊢
  rw [toList_toLower, isSingle_map_toLower]
  split at h
  · next hs =>
      rw [if_pos hs]
      exact singleOfName_toLower h
  · next hs =>
      rw [if_neg hs]
      exact collectiveOfName_toLower h

theorem nestedOfName_toLower (h : nestedOfName s = .ok p) :
    nestedOfName s.toLower = .ok p.lowerBranches := by
  unfold nestedOfName at h ⊢
  rw [contains_toLower (by decide), splitOn_toLower (d := '.') rfl (by decide)]
  split at h
  · next hdot =>
      rw [if_pos hdot]
      split at h
      · next main sub hsplit =>
          obtain ⟨m, hm, h⟩ := Outcome.bind_eq_ok.mp h
          obtain ⟨q, hq, h⟩ := Outcome.bind_eq_ok.mp h
          cases h
          rw [hsplit]
          simp only [List.map_cons, List.map_nil, partOfName_toLower hm, partOfName_toLower hq,
            Outcome.ok_bind, Outcome.pure_eq_ok, lowerBranches]
      · cases h
  · cases h

theorem memberOfName_toLower (h : memberOfName s = .ok p) :
    memberOfName s.toLower = .ok p.lowerBranches := by
  unfold memberOfName at h ⊢
  rw [toList_toLower, isSingle_map_toLower, isCollective_map_toLower]
  split at h
  · next hs =>
      rw [if_pos hs]
      exact singleOfName_toLower h
  · next hs =>
      rw [if_neg hs]
      split at h
      · next hc =>
          rw [if_pos hc]
          exact collectiveOfName_toLower h
      · next hc =>
          rw [if_neg hc]
          exact nestedOfName_toLower h

theorem multipleOfName_toLower (h : multipleOfName s = .ok p) :
    multipleOfName s.toLower = .ok p.lowerBranches := by
  unfold multipleOfName at h ⊢
  rw [contains_toLower (by decide), splitOn_toLower (d := ',') rfl (by decide)]
  split at h
  · next hcomma =>
      rw [if_pos hcomma]
      obtain ⟨all, hall, rfl⟩ := Outcome.map_eq_ok.mp h
      rw [Outcome.mapM_map_eq_ok_map (fun _ _ q hq => memberOfName_toLower hq) hall, lowerBranches]
      rfl
  · cases h

theorem ofName_toLower (h : ofName s = .ok p) : ofName s.toLower = .ok p.lowerBranches := by
  unfold ofName at h ⊢
  rw [toList_toLower, isSingle_map_toLower, isCollective_map_toLower, isNested_map_toLower]
  split at h
  · next hs =>
      rw [if_pos hs]
      exact singleOfName_toLower h
  · next hs =>
      rw [if_neg hs]
      split at h
      · next hc =>
          rw [if_pos hc]
          exact collectiveOfName_toLower h
      · next hc =>
          rw [if_neg hc]
          split at h
          · next hn =>
              rw [if_pos hn]
              exact nestedOfName_toLower h
          · next hn =>
              rw [if_neg hn]
              split at h
              · -- the lower-cased name still reads as a multiple name
                have hmul := multipleOfName_toLower h
                have hm : isMultipleName s.toLower = true := by simp [isMultipleName, hmul]
                rw [if_pos hm]
                exact hmul
              · cases h

/-! ## The characters of a name that reads -/

theorem lowerChar_of_mem_text {w : Side} {c : Char} (hc : c ∈ w.text) : lowerChar c = [c.toLower] := by
  rcases w.mem_text hc with hl | hd | rfl
  · exact lowerChar_of_lt (toNat_lt_of_isLetter hl)
  · exact lowerChar_of_isDecimalDigit hd
  · exact lowerChar_of_lt (by decide)

theorem lowerChar_of_mem_side {w : Side} {e : List Char} (he : atEnd e = true) {c : Char}
    (hc : c ∈ w.text ++ e) : lowerChar c = [c.toLower] := by
  rcases List.mem_append.mp hc with hc | hc
  · exact lowerChar_of_mem_text hc
  · rcases atEnd_iff.mp he with rfl | rfl
    · cases hc
    · rw [List.mem_singleton.mp hc]
      exact lowerChar_of_lt (by decide)

theorem lowerChar_of_isSingle {cs : List Char} (h : isSingle cs = true) :
    ∀ c ∈ cs, lowerChar c = [c.toLower] := by
  obtain ⟨w, e, rfl, he, -⟩ := exists_side_of_isSingle h
  exact fun c hc => lowerChar_of_mem_side he hc

theorem lowerChar_of_isCollective {cs : List Char} (h : isCollective cs = true) :
    ∀ c ∈ cs, lowerChar c = [c.toLower] := by
  obtain ⟨w, e, rfl, he, -⟩ := exists_side_of_isCollective h
  exact fun c hc => lowerChar_of_mem_side he hc

theorem lowerChar_of_collectiveOfName (h : collectiveOfName s = .ok p) :
    ∀ c ∈ s.toList, lowerChar c = [c.toLower] := by
  have hc : isCollective (strip s).toList = true := by
    unfold collectiveOfName at h
    split at h
    · assumption
    · cases h
  -- without stray blanks the text is its stripped text, a side, and at most a line feed
  have hstray := (collectiveOfName_eq_ok_iff.mp h).2
  obtain ⟨w, hw, -⟩ := exists_side_of_isCollective_strip hc
  have hs : s.toList = w.text ++ [] ∨ s.toList = w.text ++ ['\n'] := by
    simp only [StrayBlanks, hc, true_and, not_and, not_not] at hstray
    rw [List.append_nil, ← hw]
    by_cases h₁ : s.toList = (strip s).toList
    · exact .inl h₁
    · exact .inr (hstray h₁)
  rcases hs with hs | hs
  · rw [hs]
    exact fun c hc => lowerChar_of_mem_side rfl hc
  · rw [hs]
    exact fun c hc => lowerChar_of_mem_side rfl hc

theorem lowerChar_of_partOfName (h : partOfName s = .ok p) :
    ∀ c ∈ s.toList, lowerChar c = [c.toLower] := by
  unfold partOfName at h
  split at h
  · next hs => exact lowerChar_of_isSingle hs
  · exact lowerChar_of_collectiveOfName h

theorem lowerChar_of_nestedOfName (h : nestedOfName s = .ok p) :
    ∀ c ∈ s.toList, lowerChar c = [c.toLower] := by
  unfold nestedOfName at h
  split at h
  · split at h
    · next main sub hsplit =>
        obtain ⟨m, hm, h⟩ := Outcome.bind_eq_ok.mp h
        obtain ⟨q, hq, -⟩ := Outcome.bind_eq_ok.mp h
        intro c hc
        -- a character of the name is the dot or a character of a side
        rcases mem_splitOn (show ".".toList = ['.'] from rfl) hc with rfl | ⟨piece, hp, hcp⟩
        · exact lowerChar_of_lt (by decide)
        · rw [hsplit] at hp
          rcases List.mem_pair.mp hp with rfl | rfl
          · exact lowerChar_of_partOfName hm c hcp
          · exact lowerChar_of_partOfName hq c hcp
    · cases h
  · cases h

theorem lowerChar_of_memberOfName (h : memberOfName s = .ok p) :
    ∀ c ∈ s.toList, lowerChar c = [c.toLower] := by
  unfold memberOfName at h
  split at h
  · next hs => exact lowerChar_of_isSingle hs
  · split at h
    · next hc => exact lowerChar_of_isCollective hc
    · exact lowerChar_of_nestedOfName h

theorem lowerChar_of_multipleOfName (h : multipleOfName s = .ok p) :
    ∀ c ∈ s.toList, lowerChar c = [c.toLower] := by
  unfold multipleOfName at h
  split at h
  · obtain ⟨all, hall, -⟩ := Outcome.map_eq_ok.mp h
    intro c hc
    -- a character of the name is a comma or a character of a member
    rcases mem_splitOn (show ",".toList = [','] from rfl) hc with rfl | ⟨m, hm, hcm⟩
    · exact lowerChar_of_lt (by decide)
    · -- every member reads, or the whole name would not
      obtain ⟨q, hq⟩ : ∃ q, memberOfName m = .ok q := by
        cases hmem : memberOfName m with
        | ok q => exact ⟨q, rfl⟩
        | error e =>
            obtain ⟨e', he'⟩ := Outcome.mapM_eq_error_of_mem hm hmem
            rw [hall] at he'
            cases he'
      exact lowerChar_of_memberOfName hq c hcm
  · cases h

theorem lowerChar_of_ofName (h : ofName s = .ok p) : ∀ c ∈ s.toList, lowerChar c = [c.toLower] := by
  unfold ofName at h
  split at h
  · next hs => exact lowerChar_of_isSingle hs
  · split at h
    · next hc => exact lowerChar_of_isCollective hc
    · split at h
      · exact lowerChar_of_nestedOfName h
      · split at h
        · exact lowerChar_of_multipleOfName h
        · cases h

end Readers

theorem ofName_lower {s : String} {p : PhysicsObject} (h : ofName s = .ok p) :
    ofName (lower s) = .ok p.lowerBranches := by
  rw [lower_eq_toLower (lowerChar_of_ofName h)]
  exact ofName_toLower h

theorem sameName_text_iff {s t : String} {o p : PhysicsObject} (ho : ofName s = .ok o)
    (hp : ofName t = .ok p) :
    o.sameName t = true ↔ o.sameName p.name = true ∧ lower t = lower p.name := by
  unfold sameName
  rw [beq_iff_eq, beq_iff_eq]
  constructor
  · intro hlow
    -- lower-cased, the text is the canonical name of the object with its branches lower-cased
    have hread : ofName (lower t) = .ok o.lowerBranches := by
      rw [← hlow, lower_name]
      exact ofName_name (readable_lowerBranches (readable_of_ofName ho))
    have hbranches : p.lowerBranches = o.lowerBranches :=
      Except.ok.inj ((ofName_lower hp).symm.trans hread)
    have htp : lower t = lower p.name := by
      rw [lower_name p, hbranches, ← lower_name o, hlow]
    exact ⟨hlow.trans htp, htp⟩
  · rintro ⟨h, htp⟩
    exact h.trans htp.symm

end PhysicsObject

end ColliderML
