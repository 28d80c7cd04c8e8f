import ColliderML.Proofs.PhysicsObject.Grammar
import ColliderML.PhysicsObject.Construct

/-!
# The round trip of object names

An object read from a name has a canonical name from which it is read back
unchanged, and a configuration from which it is built again unchanged.  The
objects names denote are described here without the readers: a part is a
single or collective object of a branch of letters with natural bounds, a member
is a part or a nested object of two parts, and a readable object is a member or
a multiple object of two members or more.  Reading produces only readable
objects, and on readable objects the canonical name is injective, so two read
objects have names equal up to letter case exactly when they are equal up to the
letter case of their branches.
-/

namespace ColliderML

namespace PhysicsObject

open ObjectName Text

/-! ## The objects names denote -/

def IsBranch (b : String) : Prop := b.toList ≠ [] ∧ ∀ c ∈ b.toList, isLetter c = true

-- decided letter by letter along the text, not by a search over all characters
instance : DecidablePred IsBranch := fun b =>
  decidable_of_iff (b.toList ≠ [] ∧ b.toList.all isLetter = true) (by simp [IsBranch])

/-- The objects one side of a name denotes: single and collective objects of a
branch of letters, with natural bounds. -/
def IsPart : PhysicsObject → Prop
  | .single b i => IsBranch b ∧ 0 ≤ i
  | .collective b start stop => IsBranch b ∧ (∀ a ∈ start, 0 ≤ a) ∧ ∀ z ∈ stop, 0 ≤ z
  | .nested .. => False
  | .multiple _ => False

instance : DecidablePred IsPart
  | .single b i => inferInstanceAs (Decidable (IsBranch b ∧ 0 ≤ i))
  | .collective b start stop =>
    inferInstanceAs (Decidable (IsBranch b ∧ (∀ a ∈ start, 0 ≤ a) ∧ ∀ z ∈ stop, 0 ≤ z))
  | .nested .. => inferInstanceAs (Decidable False)
  | .multiple _ => inferInstanceAs (Decidable False)

def IsMember : PhysicsObject → Prop
  | .nested main sub => IsPart main ∧ IsPart sub
  | o => IsPart o

instance : DecidablePred IsMember
  | .nested main sub => inferInstanceAs (Decidable (IsPart main ∧ IsPart sub))
  | .single b i => inferInstanceAs (Decidable (IsPart (.single b i)))
  | .collective b start stop => inferInstanceAs (Decidable (IsPart (.collective b start stop)))
  | .multiple all => inferInstanceAs (Decidable (IsPart (.multiple all)))

def Readable : PhysicsObject → Prop
  | .multiple all => 2 ≤ all.length ∧ ∀ m ∈ all, IsMember m
  | o => IsMember o

instance : DecidablePred Readable
  | .multiple all => inferInstanceAs (Decidable (2 ≤ all.length ∧ ∀ m ∈ all, IsMember m))
  | .single b i => inferInstanceAs (Decidable (IsMember (.single b i)))
  | .collective b start stop => inferInstanceAs (Decidable (IsMember (.collective b start stop)))
  | .nested main sub => inferInstanceAs (Decidable (IsMember (.nested main sub)))

theorem isBranch_ofList {l : List Char} (hne : l ≠ []) (hl : ∀ c ∈ l, isLetter c = true) :
    IsBranch (String.ofList l) := by
  simpa [IsBranch] using And.intro hne hl

theorem isMember_of_isPart {o : PhysicsObject} (h : IsPart o) : IsMember o := by
  cases o <;> first | exact h | exact h.elim

theorem readable_of_isMember {o : PhysicsObject} (h : IsMember o) : Readable o := by
  cases o with
  | multiple all => exact h.elim
  | _ => exact h

/-! ## Numerals -/

theorem toList_repr_of_nonneg {i : Int} (h : 0 ≤ i) :
    i.repr.toList = Nat.toDigits 10 i.toNat := by
  simp [Int.repr_eq_if, h, Nat.toList_repr]

theorem isDecimalDigit_of_mem_toDigits {n : Nat} {c : Char} (h : c ∈ Nat.toDigits 10 n) :
    isDecimalDigit c = true :=
  isDecimalDigit_of_isDigit (Nat.isDigit_of_mem_toDigits (by decide) (by decide) h)

theorem foldl_digitValue {ds : List Char} (h : ∀ c ∈ ds, c.isDigit = true) (acc : Nat) :
    ds.foldl (fun n c => 10 * n + (digitValue? c).getD 0) acc = Nat.ofDigitChars 10 ds acc := by
  induction ds generalizing acc with
  | nil => rfl
  | cons c cs ih =>
      rw [List.foldl_cons, Nat.ofDigitChars_cons, digitValue?_of_isDigit (h c (by simp))]
      exact ih (fun d hd => h d (by simp [hd])) _

theorem digitsValue_toDigits (n : Nat) : digitsValue (Nat.toDigits 10 n) = n := by
  rw [digitsValue, foldl_digitValue (fun c hc => Nat.isDigit_of_mem_toDigits (by decide)
    (by decide) hc), Nat.ofDigitChars_ten_toDigits]

theorem boundOf_toDigits (n : Nat) : boundOf (Nat.toDigits 10 n) = some (n : Int) := by
  simp [boundOf, Nat.toDigits_ne_nil, digitsValue_toDigits]

@[simp] theorem boundOf_nil : boundOf [] = none := rfl

theorem boundOf_nonneg (ds : List Char) : ∀ a ∈ boundOf ds, 0 ≤ a := by
  intro a ha
  unfold boundOf at ha
  split at ha
  · simp at ha
  · simp only [Option.mem_def, Option.some.injEq] at ha
    rw [← ha]
    exact Int.natCast_nonneg _

/-! ## Canonical names read back -/

theorem exists_side_of_isPart {o : PhysicsObject} (h : IsPart o) :
    ∃ w : Side, o.name.toList = w.text ∧ w.object = o := by
  have digits := fun (n : Nat) (c : Char) (hc : c ∈ Nat.toDigits 10 n) =>
    isDecimalDigit_of_mem_toDigits hc
  cases o with
  | single b i =>
      obtain ⟨⟨hne, hb⟩, hi⟩ := h
      refine ⟨⟨b.toList, Nat.toDigits 10 i.toNat, false, [], hne, hb, digits _, by simp,
        fun _ => rfl⟩, ?_, ?_⟩
      · simp [name, toList_repr_of_nonneg hi, Side.text, Side.colonPart]
      · simp [Side.object, Side.single, Nat.toDigits_ne_nil, digitsValue_toDigits,
          Int.toNat_of_nonneg hi]
  | collective b start stop =>
      obtain ⟨⟨hne, hb⟩, hstart, hstop⟩ := h
      -- the four shapes of a collective name: with or without each bound
      cases start with
      | none =>
          cases stop with
          | none =>
              refine ⟨⟨b.toList, [], false, [], hne, hb, by simp, by simp, fun _ => rfl⟩, ?_, ?_⟩
              · simp [name, collectiveName, Side.text, Side.colonPart]
              · simp [Side.object, Side.single, boundOf]
          | some z =>
              have hz : 0 ≤ z := hstop z rfl
              refine ⟨⟨b.toList, [], true, Nat.toDigits 10 z.toNat, hne, hb, by simp,
                digits _, by simp⟩, ?_, ?_⟩
              · simp [name, collectiveName, Side.text, Side.colonPart,
                  toList_repr_of_nonneg hz]
              · simp [Side.object, Side.single, boundOf_toDigits, Int.toNat_of_nonneg hz]
      | some a =>
          have ha : 0 ≤ a := hstart a rfl
          cases stop with
          | none =>
              refine ⟨⟨b.toList, Nat.toDigits 10 a.toNat, true, [], hne, hb, digits _,
                by simp, by simp⟩, ?_, ?_⟩
              · simp [name, collectiveName, Side.text, Side.colonPart,
                  toList_repr_of_nonneg ha]
              · simp [Side.object, Side.single, boundOf_toDigits, Int.toNat_of_nonneg ha]
          | some z =>
              have hz : 0 ≤ z := hstop z rfl
              refine ⟨⟨b.toList, Nat.toDigits 10 a.toNat, true, Nat.toDigits 10 z.toNat, hne,
                hb, digits _, digits _, by simp⟩, ?_, ?_⟩
              · simp [name, collectiveName, Side.text, Side.colonPart,
                  toList_repr_of_nonneg ha, toList_repr_of_nonneg hz]
              · simp [Side.object, Side.single, boundOf_toDigits, Int.toNat_of_nonneg ha,
                  Int.toNat_of_nonneg hz]
  | nested => exact h.elim
  | multiple => exact h.elim

theorem exists_text_of_isMember {m : PhysicsObject} (h : IsMember m) :
    (∃ w : Side, m.name.toList = w.text ∧ w.object = m) ∨
      ∃ w₁ w₂ : Side, m.name.toList = w₁.text ++ '.' :: w₂.text ∧
        m = .nested w₁.object w₂.object := by
  cases m with
  | nested main sub =>
      obtain ⟨hmain, hsub⟩ := h
      obtain ⟨w₁, h₁, rfl⟩ := exists_side_of_isPart hmain
      obtain ⟨w₂, h₂, rfl⟩ := exists_side_of_isPart hsub
      exact .inr ⟨w₁, w₂, by simp [name, h₁, h₂], rfl⟩
  | single b i => exact .inl (exists_side_of_isPart h)
  | collective b start stop => exact .inl (exists_side_of_isPart h)
  | multiple => exact h.elim

theorem name_eq_ofList {o : PhysicsObject} {cs : List Char} (h : o.name.toList = cs) :
    o.name = String.ofList (cs ++ []) := by
  rw [List.append_nil, ← h, String.ofList_toList]

theorem memberOfName_name {m : PhysicsObject} (h : IsMember m) : memberOfName m.name = .ok m := by
  rcases exists_text_of_isMember h with ⟨w, hname, rfl⟩ | ⟨w₁, w₂, hname, rfl⟩
  · rw [name_eq_ofList hname]
    exact memberOfName_text w rfl
  · rw [name_eq_ofList hname, List.append_assoc, List.cons_append]
    exact memberOfName_nested_text w₁ w₂ rfl

theorem comma_not_mem_name {m : PhysicsObject} (h : IsMember m) : ',' ∉ m.name.toList := by
  rcases exists_text_of_isMember h with ⟨w, hname, -⟩ | ⟨w₁, w₂, hname, -⟩
  · rw [hname]
    exact w.comma_not_mem_text
  · simp [hname, w₁.comma_not_mem_text, w₂.comma_not_mem_text]

theorem ofName_name_of_isMember {m : PhysicsObject} (h : IsMember m) : ofName m.name = .ok m := by
  rcases exists_text_of_isMember h with ⟨w, hname, rfl⟩ | ⟨w₁, w₂, hname, rfl⟩
  · rw [name_eq_ofList hname]
    exact ofName_text w rfl
  · rw [name_eq_ofList hname, List.append_assoc, List.cons_append]
    exact ofName_nested_text w₁ w₂ rfl

theorem multipleOfName_name {all : List PhysicsObject} (h : Readable (.multiple all)) :
    multipleOfName (multiple all).name = .ok (.multiple all) := by
  obtain ⟨hlen, hmembers⟩ := h
  obtain ⟨a, b, rest, rfl⟩ : ∃ a b rest, all = a :: b :: rest := by
    match all, hlen with
    | a :: b :: rest, _ => exact ⟨a, b, rest, rfl⟩
  have hcomma : ((multiple (a :: b :: rest)).name).contains ',' = true := by
    simp [name, String.contains_char_eq]
  have hsplit : splitOn (multiple (a :: b :: rest)).name "," =
      (a :: b :: rest).map name := by
    rw [name]
    apply splitOn_intercalate (d := ',') rfl (by simp)
    simpa using fun m hm => comma_not_mem_name (hmembers m hm)
  simp only [multipleOfName, hcomma, if_true, hsplit,
    Outcome.mapM_map_eq_ok (fun m hm => memberOfName_name (hmembers m hm))]
  rfl

theorem ofName_name_of_multiple {all : List PhysicsObject} (h : Readable (.multiple all)) :
    ofName (multiple all).name = .ok (.multiple all) := by
  have hcomma : ',' ∈ (multiple all).name.toList := by
    obtain ⟨hlen, -⟩ := h
    match all, hlen with
    | a :: b :: rest, _ => simp [name]
  -- a comma rules out the three grammars that have none
  have hsingle : isSingle (multiple all).name.toList = false :=
    Bool.eq_false_iff.mpr fun hs => comma_not_mem_of_isSingle hs hcomma
  have hcollective : isCollective (multiple all).name.toList = false :=
    Bool.eq_false_iff.mpr fun hs => comma_not_mem_of_isCollective hs hcomma
  have hnested : isNested (multiple all).name.toList = false :=
    Bool.eq_false_iff.mpr fun hs => comma_not_mem_of_isNested hs hcomma
  have hmultiple := multipleOfName_name h
  have hname : isMultipleName (multiple all).name = true := by
    simp [isMultipleName, hmultiple]
  simp only [ofName, hsingle, hcollective, hnested, hname, Bool.false_eq_true, if_false,
    if_true]
  exact hmultiple

theorem ofName_name {o : PhysicsObject} (h : Readable o) : ofName o.name = .ok o := by
  cases o with
  | multiple all => exact ofName_name_of_multiple h
  | _ => exact ofName_name_of_isMember h

theorem eq_of_name_eq {o₁ o₂ : PhysicsObject} (h₁ : Readable o₁) (h₂ : Readable o₂)
    (h : o₁.name = o₂.name) : o₁ = o₂ := by
  have hread : (Except.ok o₁ : Outcome PhysicsObject) = .ok o₂ := by
    rw [← ofName_name h₁, ← ofName_name h₂, h]
  exact Except.ok.inj hread

theorem partOfName_name {o : PhysicsObject} (h : IsPart o) : partOfName o.name = .ok o := by
  obtain ⟨w, hname, rfl⟩ := exists_side_of_isPart h
  rw [name_eq_ofList hname]
  exact partOfName_text w rfl

/-! ## Reading produces readable objects -/

section Readers

variable {s : String} {o : PhysicsObject}

theorem isPart_of_singleOfName (h : singleOfName s = .ok o) : IsPart o := by
  unfold singleOfName at h
  split at h
  · next l d hparts =>
      cases h
      obtain ⟨hne, hl⟩ := branch_of_singleParts hparts
      exact ⟨isBranch_ofList hne hl, Int.natCast_nonneg _⟩
  · cases h

theorem isPart_of_collectiveOfName (h : collectiveOfName s = .ok o) : IsPart o := by
  unfold collectiveOfName at h
  split at h
  · split at h
    · next l d₁ d₂ hparts =>
        cases h
        obtain ⟨hne, hl⟩ := branch_of_collectiveParts hparts
        exact ⟨isBranch_ofList hne hl, boundOf_nonneg d₁, boundOf_nonneg d₂⟩
    · cases h
  · cases h

theorem isPart_of_partOfName (h : partOfName s = .ok o) : IsPart o := by
  unfold partOfName at h
  split at h
  · exact isPart_of_singleOfName h
  · exact isPart_of_collectiveOfName h

theorem isMember_of_nestedOfName (h : nestedOfName s = .ok o) : IsMember o := by
  unfold nestedOfName at h
  split at h
  · split at h
    · obtain ⟨main, hmain, h⟩ := Outcome.bind_eq_ok.mp h
      obtain ⟨sub, hsub, h⟩ := Outcome.bind_eq_ok.mp h
      cases h
      exact ⟨isPart_of_partOfName hmain, isPart_of_partOfName hsub⟩
    · cases h
  · cases h

theorem isMember_of_memberOfName (h : memberOfName s = .ok o) : IsMember o := by
  unfold memberOfName at h
  split at h
  · exact isMember_of_isPart (isPart_of_singleOfName h)
  · split at h
    · exact isMember_of_isPart (isPart_of_collectiveOfName h)
    · exact isMember_of_nestedOfName h

theorem readable_of_multipleOfName (h : multipleOfName s = .ok o) : Readable o := by
  unfold multipleOfName at h
  split at h
  · next hcomma =>
      obtain ⟨all, hall, rfl⟩ := Outcome.map_eq_ok.mp h
      obtain ⟨hlen, hmembers⟩ := Outcome.mapM_eq_ok hall
      have hpieces : 2 ≤ (splitOn s ",").length := by
        rw [splitOn_eq (d := ',') rfl, List.length_map]
        exact two_le_length_splitList (by simpa [String.contains_char_eq] using hcomma)
      refine ⟨by omega, fun m hm => ?_⟩
      obtain ⟨p, -, hp⟩ := hmembers m hm
      exact isMember_of_memberOfName hp
  · cases h

theorem readable_of_ofName (h : ofName s = .ok o) : Readable o := by
  unfold ofName at h
  split at h
  · exact readable_of_isMember (isMember_of_isPart (isPart_of_singleOfName h))
  · split at h
    · exact readable_of_isMember (isMember_of_isPart (isPart_of_collectiveOfName h))
    · split at h
      · exact readable_of_isMember (isMember_of_nestedOfName h)
      · split at h
        · exact readable_of_multipleOfName h
        · cases h

end Readers

/-! ## Letter case -/

def lowerBranches : PhysicsObject → PhysicsObject
  | .single b i => .single (lower b) i
  | .collective b start stop => .collective (lower b) start stop
  | .nested main sub => .nested main.lowerBranches sub.lowerBranches
  | .multiple all => .multiple (all.map lowerBranches)

theorem lower_name : (o : PhysicsObject) → lower o.name = o.lowerBranches.name
  | .single b i => by
      simp [name, lowerBranches, lower_append, lower_repr]
  | .collective b start stop => by
      have hcolon : lower ":" = ":" := lower_eq_self (by simp)
      cases start <;> cases stop <;>
        simp [name, collectiveName, lowerBranches, lower_append, lower_repr, hcolon]
  | .nested main sub => by
      have hdot : lower "." = "." := lower_eq_self (by simp)
      simp [name, lowerBranches, lower_append, hdot, lower_name main, lower_name sub]
  | .multiple all => by
      have hcomma : lower "," = "," := lower_eq_self (by simp)
      rw [name, lowerBranches, name, lower_intercalate, hcomma, List.map_map, List.map_map]
      congr 1
      exact List.map_congr_left fun m _ => lower_name m

theorem isLetter_toLower {c : Char} (h : isLetter c = true) : isLetter c.toLower = true := by
  cases hu : c.isUpper with
  | false => rwa [toLower_of_not_isUpper hu]
  | true =>
      have hc := isUpper_iff.mp hu
      rw [isLetter_iff, toNat_toLower_of_isUpper hu]
      omega

theorem toNat_lt_of_isLetter {c : Char} (h : isLetter c = true) : c.toNat < 128 := by
  have hc := isLetter_iff.mp h
  omega

theorem isBranch_lower {b : String} (h : IsBranch b) : IsBranch (lower b) := by
  obtain ⟨hne, hb⟩ := h
  have hlower := toList_lower_of_lt fun c hc => toNat_lt_of_isLetter (hb c hc)
  refine ⟨by simpa [hlower] using hne, ?_⟩
  rw [hlower]
  intro c hc
  obtain ⟨d, hd, rfl⟩ := List.mem_map.mp hc
  exact isLetter_toLower (hb d hd)

theorem isPart_lowerBranches {o : PhysicsObject} (h : IsPart o) : IsPart o.lowerBranches := by
  cases o with
  | single b i =>
      rw [lowerBranches]
      exact ⟨isBranch_lower h.1, h.2⟩
  | collective b start stop =>
      rw [lowerBranches]
      exact ⟨isBranch_lower h.1, h.2⟩
  | nested => exact h.elim
  | multiple => exact h.elim

theorem isMember_lowerBranches {o : PhysicsObject} (h : IsMember o) :
    IsMember o.lowerBranches := by
  cases o with
  | nested main sub =>
      rw [lowerBranches]
      exact ⟨isPart_lowerBranches h.1, isPart_lowerBranches h.2⟩
  | single b i => exact isMember_of_isPart (isPart_lowerBranches (o := .single b i) h)
  | collective b start stop =>
      exact isMember_of_isPart (isPart_lowerBranches (o := .collective b start stop) h)
  | multiple => exact h.elim

theorem readable_lowerBranches {o : PhysicsObject} (h : Readable o) :
    Readable o.lowerBranches := by
  cases o with
  | multiple all =>
      obtain ⟨hlen, hmembers⟩ := h
      rw [lowerBranches]
      refine ⟨by simpa using hlen, ?_⟩
      intro m hm
      obtain ⟨n, hn, rfl⟩ := List.mem_map.mp hm
      exact isMember_lowerBranches (hmembers n hn)
  | single b i => exact readable_of_isMember (isMember_lowerBranches (o := .single b i) h)
  | collective b start stop =>
      exact readable_of_isMember (isMember_lowerBranches (o := .collective b start stop) h)
  | nested main sub =>
      exact readable_of_isMember (isMember_lowerBranches (o := .nested main sub) h)

theorem sameName_iff {o₁ o₂ : PhysicsObject} (h₁ : Readable o₁) (h₂ : Readable o₂) :
    o₁.sameName o₂.name = true ↔ o₁.lowerBranches = o₂.lowerBranches := by
  rw [sameName, beq_iff_eq, lower_name, lower_name]
  constructor
  · exact eq_of_name_eq (readable_lowerBranches h₁) (readable_lowerBranches h₂)
  · intro h
    rw [h]

/-! ## Building again from the configuration -/

def configArgs (o : PhysicsObject) : List (String × ObjectArg) :=
  o.config.fields.map fun kv => (kv.1, .value kv.2)

theorem describeNew_configArgs {o : PhysicsObject} (h : Readable o) :
    describeNew o.kind o.configArgs = .ok o.describe := by
  cases o with
  | single b i =>
      simp [describeNew, configArgs, kind, config, Datum.fields, bindArguments, List.lookup,
        looseField]
  | collective b start stop =>
      cases start <;> cases stop <;>
        simp [describeNew, configArgs, kind, config, Datum.fields, bindArguments, List.lookup,
          looseField, Datum.ofIntOption]
  | nested main sub =>
      obtain ⟨hmain, hsub⟩ := h
      simp [describeNew, configArgs, kind, config, Datum.fields, bindArguments, List.lookup,
        nestedOfArgs, partOfArg, ObjectArg.text, partOfName_name hmain, partOfName_name hsub]
  | multiple all =>
      obtain ⟨-, hmembers⟩ := h
      have hread : (all.map fun m => ObjectArg.value (.str m.name)).mapM memberOfArg = .ok all :=
        Outcome.mapM_map_eq_ok fun m hm => by
          simp [memberOfArg, ObjectArg.text, memberOfName_name (hmembers m hm)]
      simp [describeNew, configArgs, kind, config, Datum.fields, bindArguments, List.lookup,
        multipleOfArg, ObjectArg.items, Datum.ofStrings, List.map_map, Function.comp_def, hread]

/-! ## The round trip -/

/-- Every object read from a name is read back unchanged from its canonical
name and built back unchanged from its configuration; and two read objects have
names equal up to letter case exactly when they are equal up to the letter case
of their branches. -/
theorem ofName_canonical_roundTrip {s : String} {o : PhysicsObject} (h : ofName s = .ok o) :
    ofName o.name = .ok o ∧ describeNew o.kind o.configArgs = .ok o.describe ∧
      ∀ t o', ofName t = .ok o' →
        (o.sameName o'.name = true ↔ o.lowerBranches = o'.lowerBranches) := by
  have hread := readable_of_ofName h
  refine ⟨ofName_name hread, describeNew_configArgs hread, ?_⟩
  intro t o' h'
  exact sameName_iff hread (readable_of_ofName h')

/-- A multiple name with a nested member and letters of both cases reads back. -/
theorem ofName_canonical_roundTrip_mixed :
    let o := multiple [.single "Jet" 0,
      .nested (.collective "jet" (some 1) (some 3)) (.collective "Constituents" none none)]
    ofName "Jet0,jet1:3.Constituents" = .ok o ∧
      (ofName o.name = .ok o ∧ describeNew o.kind o.configArgs = .ok o.describe ∧
        ∀ t o', ofName t = .ok o' →
          (o.sameName o'.name = true ↔ o.lowerBranches = o'.lowerBranches)) := by
  intro o
  have hname : o.name = "Jet0,jet1:3.Constituents" := by
    simp [o, name, collectiveName]
    decide
  have h : ofName "Jet0,jet1:3.Constituents" = .ok o := hname ▸ ofName_name (by decide)
  exact ⟨h, ofName_canonical_roundTrip h⟩

end PhysicsObject

end ColliderML
