import ColliderML.PhysicsObject.Name
import ColliderML.Proofs.Text.Characters
import ColliderML.Proofs.Text.Split
import ColliderML.Proofs.Outcome

/-!
# The written form of object names

A side of a name as written is a branch of ASCII letters, start digits and, when
a colon follows, stop digits (`Side`).  A single or collective name is one
side, a nested name is two sides around a dot, and any of them may end with one
line feed.  This file computes every reader and predicate of the name grammar
on written sides, and shows that every text a predicate accepts is written so.
The first half carries the round trip of names, the second the classification.
-/

namespace ColliderML

namespace ObjectName

open Text

/-! ## Characters of the grammar -/

theorem isLetter_iff {c : Char} :
    isLetter c = true ↔ (97 ≤ c.toNat ∧ c.toNat ≤ 122) ∨ (65 ≤ c.toNat ∧ c.toNat ≤ 90) := by
  simp [isLetter, Char.le_def, UInt32.le_iff_toNat_le]

theorem isDecimalDigit_eq_false_of_isLetter {c : Char} (h : isLetter c = true) :
    isDecimalDigit c = false := by
  have hc := isLetter_iff.mp h
  have hlt : c.toNat < 128 := by omega
  have hd : c.isDigit = false := by
    rw [Bool.eq_false_iff]
    intro hd
    have := Char.isDigit_iff_toNat.mp hd
    simp only [Char.reduceToNat] at this
    omega
  simp [isDecimalDigit, digitValue?, hlt, hd]

theorem isBlank_eq_false_of_isLetter {c : Char} (h : isLetter c = true) : isBlank c = false :=
  have hc := isLetter_iff.mp h
  isBlank_eq_false_of_lt (by omega) (by omega)

theorem isLetter_eq_false_of_isDecimalDigit {c : Char} (h : isDecimalDigit c = true) :
    isLetter c = false := by
  cases hl : isLetter c with
  | false => rfl
  | true => simp [isDecimalDigit_eq_false_of_isLetter hl] at h

theorem atEnd_iff {e : List Char} : atEnd e = true ↔ e = [] ∨ e = ['\n'] := by
  simp [atEnd]

theorem atEnd_cons_eq_false {c : Char} (h : c ≠ '\n') (cs : List Char) :
    atEnd (c :: cs) = false := by
  simp [atEnd, h]

theorem ne_newline_of_isDecimalDigit {c : Char} (h : isDecimalDigit c = true) : c ≠ '\n' := by
  rintro rfl
  have := isBlank_eq_false_of_isDecimalDigit h
  rw [isBlank_newline] at this
  contradiction

/-! ## Runs of a class of characters -/

section Runs

variable {p : Char → Bool} {w rest : List Char}

theorem takeWhile_append_stop (hw : ∀ c ∈ w, p c = true) (hr : ∀ c ∈ rest.head?, p c = false) :
    (w ++ rest).takeWhile p = w := by
  rw [List.takeWhile_append_of_pos hw]
  cases rest with
  | nil => simp
  | cons c cs => simp [hr c (by simp)]

theorem dropWhile_append_stop (hw : ∀ c ∈ w, p c = true) (hr : ∀ c ∈ rest.head?, p c = false) :
    (w ++ rest).dropWhile p = rest := by
  rw [List.dropWhile_append_of_pos hw]
  cases rest with
  | nil => simp
  | cons c cs => simp [hr c (by simp)]

theorem spanLetters_append (hw : ∀ c ∈ w, isLetter c = true)
    (hr : ∀ c ∈ rest.head?, isLetter c = false) : spanLetters (w ++ rest) = (w, rest) := by
  simp [spanLetters, takeWhile_append_stop hw hr, dropWhile_append_stop hw hr]

theorem spanDigits_append (hw : ∀ c ∈ w, isDecimalDigit c = true)
    (hr : ∀ c ∈ rest.head?, isDecimalDigit c = false) : spanDigits (w ++ rest) = (w, rest) := by
  simp [spanDigits, takeWhile_append_stop hw hr, dropWhile_append_stop hw hr]

theorem exists_run_append (p : Char → Bool) (cs : List Char) :
    ∃ w rest, cs = w ++ rest ∧ (∀ c ∈ w, p c = true) ∧ ∀ c ∈ rest.head?, p c = false := by
  refine ⟨cs.takeWhile p, cs.dropWhile p, List.takeWhile_append_dropWhile.symm,
    fun c hc => List.all_eq_true.mp List.all_takeWhile c hc, ?_⟩
  intro c hc
  have hne : cs.dropWhile p ≠ [] := by
    intro h
    simp [h] at hc
  have := List.head_dropWhile_not p hne
  rw [Option.mem_def, List.head?_eq_some_head hne, Option.some.injEq] at hc
  rw [← hc]
  simpa using this

end Runs

/-! ## Written sides -/

/-- One side of a name as written: a branch of letters, digits, and, when a colon
follows them, more digits. -/
structure Side where
  branch : List Char
  start : List Char
  colon : Bool
  stop : List Char
  branch_ne_nil : branch ≠ []
  branch_letters : ∀ c ∈ branch, isLetter c = true
  start_digits : ∀ c ∈ start, isDecimalDigit c = true
  stop_digits : ∀ c ∈ stop, isDecimalDigit c = true
  stop_eq_nil : colon = false → stop = []

/-- A text that cannot continue a side: empty, or beginning with a character that
is no letter, no digit and no colon. -/
def Stops (rest : List Char) : Prop :=
  ∀ c ∈ rest.head?, isLetter c = false ∧ isDecimalDigit c = false ∧ c ≠ ':'

theorem stops_of_atEnd {e : List Char} (h : atEnd e = true) : Stops e := by
  rcases atEnd_iff.mp h with rfl | rfl
  · simp [Stops]
  · simp only [Stops, List.head?_cons, Option.mem_def, Option.some.injEq, forall_eq']
    decide

theorem stops_dot (rest : List Char) : Stops ('.' :: rest) := by
  simp only [Stops, List.head?_cons, Option.mem_def, Option.some.injEq, forall_eq']
  decide

namespace Side

variable (w : Side) {rest : List Char}

def colonPart : List Char := if w.colon then ':' :: w.stop else []

def text : List Char := w.branch ++ (w.start ++ w.colonPart)

def single : Bool := !w.colon && !w.start.isEmpty

def object : PhysicsObject :=
  if w.single then .single (String.ofList w.branch) (digitsValue w.start)
  else .collective (String.ofList w.branch) (PhysicsObject.boundOf w.start)
    (PhysicsObject.boundOf w.stop)

theorem mem_text {c : Char} (h : c ∈ w.text) :
    isLetter c = true ∨ isDecimalDigit c = true ∨ c = ':' := by
  simp only [text, colonPart, List.mem_append] at h
  rcases h with h | h | h
  · exact .inl (w.branch_letters c h)
  · exact .inr (.inl (w.start_digits c h))
  · split at h
    · rcases List.mem_cons.mp h with rfl | h
      · exact .inr (.inr rfl)
      · exact .inr (.inl (w.stop_digits c h))
    · simp at h

theorem isBlank_of_mem_text {c : Char} (h : c ∈ w.text) : isBlank c = false := by
  rcases w.mem_text h with h | h | rfl
  · exact isBlank_eq_false_of_isLetter h
  · exact isBlank_eq_false_of_isDecimalDigit h
  · decide +kernel

theorem not_mem_text_of {d : Char} (hl : isLetter d = false) (hd : isDecimalDigit d = false)
    (hc : d ≠ ':') : d ∉ w.text := by
  intro hmem
  rcases w.mem_text hmem with h | h | h <;> simp_all

theorem dot_not_mem_text : '.' ∉ w.text := w.not_mem_text_of (by decide) (by decide) (by decide)

theorem comma_not_mem_text : ',' ∉ w.text := w.not_mem_text_of (by decide) (by decide) (by decide)

theorem text_ne_nil : w.text ≠ [] := by
  simp [text, w.branch_ne_nil]

@[simp] theorem branch_isEmpty : w.branch.isEmpty = false :=
  List.isEmpty_eq_false_iff.mpr w.branch_ne_nil

/-! ## Reading a side -/

theorem head_colonPart_append (hr : Stops rest) :
    ∀ c ∈ (w.colonPart ++ rest).head?, isLetter c = false ∧ isDecimalDigit c = false := by
  intro c hc
  cases hcol : w.colon with
  | true =>
      simp only [colonPart, hcol, if_true, List.cons_append, List.head?_cons, Option.mem_def,
        Option.some.injEq] at hc
      subst hc
      decide
  | false =>
      simp only [colonPart, hcol, Bool.false_eq_true, if_false, List.nil_append] at hc
      exact ⟨(hr c hc).1, (hr c hc).2.1⟩

theorem spanLetters_text_append (hr : Stops rest) :
    spanLetters (w.text ++ rest) = (w.branch, w.start ++ (w.colonPart ++ rest)) := by
  rw [text, List.append_assoc, List.append_assoc]
  apply spanLetters_append w.branch_letters
  intro c hc
  cases hs : w.start with
  | nil =>
      rw [hs, List.nil_append] at hc
      exact (w.head_colonPart_append hr c hc).1
  | cons d ds =>
      rw [hs, List.cons_append, List.head?_cons, Option.mem_def, Option.some.injEq] at hc
      rw [← hc]
      exact isLetter_eq_false_of_isDecimalDigit (w.start_digits d (by simp [hs]))

theorem spanDigits_start_append (hr : Stops rest) :
    spanDigits (w.start ++ (w.colonPart ++ rest)) = (w.start, w.colonPart ++ rest) :=
  spanDigits_append w.start_digits fun c hc => (w.head_colonPart_append hr c hc).2

theorem dropColon_colonPart_append (hr : Stops rest) :
    dropColon (w.colonPart ++ rest) = w.stop ++ rest := by
  cases hcol : w.colon with
  | true => simp [colonPart, hcol, dropColon]
  | false =>
      simp only [colonPart, hcol, Bool.false_eq_true, if_false, List.nil_append,
        w.stop_eq_nil hcol]
      cases rest with
      | nil => rfl
      | cons c cs =>
          have hc : c ≠ ':' := (hr c (by simp)).2.2
          simp [dropColon, hc]

theorem spanDigits_stop_append (hr : Stops rest) : spanDigits (w.stop ++ rest) = (w.stop, rest) :=
  spanDigits_append w.stop_digits fun c hc => (hr c hc).2.1

theorem spanPart_text_append (hr : Stops rest) : spanPart (w.text ++ rest) = some rest := by
  simp [spanPart, w.spanLetters_text_append hr, w.spanDigits_start_append hr,
    w.dropColon_colonPart_append hr, w.spanDigits_stop_append hr]

theorem isSingle_text_append (hr : Stops rest) :
    isSingle (w.text ++ rest) = (w.single && atEnd rest) := by
  simp only [isSingle, w.spanLetters_text_append hr, w.spanDigits_start_append hr, single,
    branch_isEmpty, Bool.not_false, Bool.true_and]
  cases hcol : w.colon with
  | true => simp [colonPart, hcol, atEnd]
  | false => simp [colonPart, hcol]

theorem isCollective_text_append (hr : Stops rest) :
    isCollective (w.text ++ rest) = (!w.single && atEnd rest) := by
  simp only [isCollective, w.spanLetters_text_append hr, w.spanDigits_start_append hr, single,
    branch_isEmpty, Bool.not_false, Bool.true_and]
  cases hcol : w.colon with
  | true =>
      simp only [colonPart, hcol, if_true, List.cons_append]
      -- after the start digits comes the colon, so the text does not end there
      have hend : atEnd (w.start ++ ':' :: (w.stop ++ rest)) = false := by
        cases hs : w.start with
        | nil => exact atEnd_cons_eq_false (by decide) _
        | cons d ds =>
            have hd := w.start_digits d (by simp [hs])
            exact atEnd_cons_eq_false (ne_newline_of_isDecimalDigit hd) _
      simp [hend, w.spanDigits_stop_append hr]
  | false =>
      simp only [colonPart, hcol, Bool.false_eq_true, if_false, List.nil_append]
      cases hs : w.start with
      | nil =>
          cases rest with
          | nil => simp
          | cons c cs =>
              have hc : c ≠ ':' := (hr c (by simp)).2.2
              simp only [List.nil_append, List.isEmpty_nil]
              split
              · next _ heq => exact absurd (List.cons.inj heq).1 hc
              · simp
      | cons d ds =>
          have hd : d ≠ '\n' := ne_newline_of_isDecimalDigit (w.start_digits d (by simp [hs]))
          cases rest with
          | nil => simp [atEnd, hd]
          | cons c cs =>
              have hc : c ≠ ':' := (hr c (by simp)).2.2
              simp only [List.cons_append, atEnd_cons_eq_false hd, Bool.false_or]
              split
              · next _ heq => exact absurd (List.cons.inj heq).1 hc
              · simp

theorem collectiveParts_text_append (hr : Stops rest) :
    collectiveParts (w.text ++ rest) =
      if atEnd rest then some (w.branch, w.start, w.stop) else none := by
  simp [collectiveParts, w.spanLetters_text_append hr, w.spanDigits_start_append hr,
    w.dropColon_colonPart_append hr, w.spanDigits_stop_append hr]

theorem singleParts_text_append (hr : Stops rest) :
    singleParts (w.text ++ rest) =
      if w.single && atEnd rest then some (w.branch, w.start) else none := by
  have hcond : (!w.start.isEmpty && atEnd (w.colonPart ++ rest)) = (w.single && atEnd rest) := by
    cases hcol : w.colon <;> simp [single, colonPart, hcol, atEnd]
  simp only [singleParts, w.spanLetters_text_append hr, w.spanDigits_start_append hr,
    branch_isEmpty, Bool.not_false, Bool.true_and, hcond]

theorem strip_text_append {e : List Char} (he : atEnd e = true) :
    (strip (String.ofList (w.text ++ e))).toList = w.text := by
  apply toList_strip String.toList_ofList
  · exact fun c hc => w.isBlank_of_mem_text (List.mem_of_mem_head? hc)
  · exact fun c hc => w.isBlank_of_mem_text (List.mem_of_getLast? hc)
  · rcases atEnd_iff.mp he with rfl | rfl
    · simp
    · simp [isBlank_newline]

end Side

/-! ## Texts the predicates accept -/

theorem exists_side_of_isSingle {cs : List Char} (h : isSingle cs = true) :
    ∃ (w : Side) (e : List Char), cs = w.text ++ e ∧ atEnd e = true ∧ w.single = true := by
  obtain ⟨l, r, rfl, hl, hlr⟩ := exists_run_append isLetter cs
  obtain ⟨d, e, rfl, hd, hde⟩ := exists_run_append isDecimalDigit r
  simp only [isSingle, spanLetters_append hl hlr, spanDigits_append hd hde, Bool.and_eq_true,
    Bool.not_eq_eq_eq_not, Bool.not_true, List.isEmpty_eq_false_iff] at h
  obtain ⟨⟨hlne, hdne⟩, he⟩ := h
  refine ⟨⟨l, d, false, [], hlne, hl, hd, by simp, fun _ => rfl⟩, e, ?_, he, ?_⟩
  · simp [Side.text, Side.colonPart]
  · simp [Side.single, hdne]

theorem exists_side_of_isCollective {cs : List Char} (h : isCollective cs = true) :
    ∃ (w : Side) (e : List Char), cs = w.text ++ e ∧ atEnd e = true ∧ w.single = false := by
  obtain ⟨l, r, rfl, hl, hlr⟩ := exists_run_append isLetter cs
  obtain ⟨d, r₂, rfl, hd, hdr⟩ := exists_run_append isDecimalDigit r
  simp only [isCollective, spanLetters_append hl hlr, spanDigits_append hd hdr, Bool.and_eq_true,
    Bool.or_eq_true, Bool.not_eq_eq_eq_not, Bool.not_true, List.isEmpty_eq_false_iff] at h
  obtain ⟨hlne, hend | hcolon⟩ := h
  · -- letters alone: a digit after them would not end the name
    cases d with
    | cons x xs =>
        rw [List.cons_append,
          atEnd_cons_eq_false (ne_newline_of_isDecimalDigit (hd x (by simp)))] at hend
        contradiction
    | nil =>
        refine ⟨⟨l, [], false, [], hlne, hl, by simp, by simp, fun _ => rfl⟩, r₂, ?_, hend, ?_⟩
        · simp [Side.text, Side.colonPart]
        · simp [Side.single]
  · -- letters, digits, a colon, digits
    split at hcolon
    · next r₃ =>
        obtain ⟨d₂, e, rfl, hd₂, hde⟩ := exists_run_append isDecimalDigit r₃
        rw [spanDigits_append hd₂ hde] at hcolon
        refine ⟨⟨l, d, true, d₂, hlne, hl, hd, hd₂, by simp⟩, e, ?_, hcolon, ?_⟩
        · simp [Side.text, Side.colonPart]
        · simp [Side.single]
    · contradiction

theorem exists_side_of_spanPart {cs rest : List Char} (h : spanPart cs = some rest) :
    ∃ w : Side, cs = w.text ++ rest := by
  obtain ⟨l, r, rfl, hl, hlr⟩ := exists_run_append isLetter cs
  obtain ⟨d, r₂, rfl, hd, hdr⟩ := exists_run_append isDecimalDigit r
  simp only [spanPart, spanLetters_append hl hlr, spanDigits_append hd hdr] at h
  split at h
  · contradiction
  · next hlne =>
      have hlne : l ≠ [] := by simpa using hlne
      cases r₂ with
      | nil =>
          simp [dropColon, spanDigits] at h
          subst h
          exact ⟨⟨l, d, false, [], hlne, hl, hd, by simp, fun _ => rfl⟩,
            by simp [Side.text, Side.colonPart]⟩
      | cons c r₃ =>
          by_cases hc : c = ':'
          · -- a colon after the start digits: stop digits follow it
            subst hc
            obtain ⟨d₂, e, rfl, hd₂, hde⟩ := exists_run_append isDecimalDigit r₃
            simp only [dropColon, spanDigits_append hd₂ hde, Option.some.injEq] at h
            subst h
            exact ⟨⟨l, d, true, d₂, hlne, hl, hd, hd₂, by simp⟩,
              by simp [Side.text, Side.colonPart]⟩
          · -- anything else ends the side after its start digits
            have hnd : isDecimalDigit c = false := hdr c (by simp)
            simp [dropColon, hc, spanDigits, hnd] at h
            subst h
            exact ⟨⟨l, d, false, [], hlne, hl, hd, by simp, fun _ => rfl⟩,
              by simp [Side.text, Side.colonPart]⟩

theorem exists_sides_of_isNested {cs : List Char} (h : isNested cs = true) :
    ∃ (w₁ w₂ : Side) (e : List Char), cs = w₁.text ++ '.' :: (w₂.text ++ e) ∧ atEnd e = true := by
  unfold isNested at h
  split at h
  · next rest h₁ =>
      split at h
      · next e h₂ =>
          obtain ⟨w₁, rfl⟩ := exists_side_of_spanPart h₁
          obtain ⟨w₂, rfl⟩ := exists_side_of_spanPart h₂
          exact ⟨w₁, w₂, e, rfl, h⟩
      · contradiction
  · contradiction

/-! ## What the accepted texts hold -/

theorem not_mem_of_atEnd {d : Char} (hd : d ≠ '\n') {e : List Char} (he : atEnd e = true) :
    d ∉ e := by
  rcases atEnd_iff.mp he with rfl | rfl
  · simp
  · simpa using hd

theorem comma_not_mem_of_isSingle {cs : List Char} (h : isSingle cs = true) : ',' ∉ cs := by
  obtain ⟨w, e, rfl, he, -⟩ := exists_side_of_isSingle h
  simp [w.comma_not_mem_text, not_mem_of_atEnd (d := ',') (by decide) he]

theorem comma_not_mem_of_isCollective {cs : List Char} (h : isCollective cs = true) :
    ',' ∉ cs := by
  obtain ⟨w, e, rfl, he, -⟩ := exists_side_of_isCollective h
  simp [w.comma_not_mem_text, not_mem_of_atEnd (d := ',') (by decide) he]

theorem comma_not_mem_of_isNested {cs : List Char} (h : isNested cs = true) : ',' ∉ cs := by
  obtain ⟨w₁, w₂, e, rfl, he⟩ := exists_sides_of_isNested h
  simp [w₁.comma_not_mem_text, w₂.comma_not_mem_text,
    not_mem_of_atEnd (d := ',') (by decide) he]

theorem dot_not_mem_of_isSingle {cs : List Char} (h : isSingle cs = true) : '.' ∉ cs := by
  obtain ⟨w, e, rfl, he, -⟩ := exists_side_of_isSingle h
  simp [w.dot_not_mem_text, not_mem_of_atEnd (d := '.') (by decide) he]

theorem dot_not_mem_of_isCollective {cs : List Char} (h : isCollective cs = true) :
    '.' ∉ cs := by
  obtain ⟨w, e, rfl, he, -⟩ := exists_side_of_isCollective h
  simp [w.dot_not_mem_text, not_mem_of_atEnd (d := '.') (by decide) he]

theorem dot_mem_of_isNested {cs : List Char} (h : isNested cs = true) : '.' ∈ cs := by
  obtain ⟨w₁, w₂, e, rfl, -⟩ := exists_sides_of_isNested h
  simp

theorem branch_of_singleParts {cs l d : List Char} (h : singleParts cs = some (l, d)) :
    l ≠ [] ∧ ∀ c ∈ l, isLetter c = true := by
  obtain ⟨l', r, rfl, hl, hlr⟩ := exists_run_append isLetter cs
  obtain ⟨d', e, rfl, hd, hde⟩ := exists_run_append isDecimalDigit r
  simp only [singleParts, spanLetters_append hl hlr, spanDigits_append hd hde] at h
  split at h
  · next hcond =>
      obtain ⟨rfl, -⟩ := Prod.mk.inj (Option.some.inj h)
      simp only [Bool.and_eq_true, Bool.not_eq_eq_eq_not, Bool.not_true,
        List.isEmpty_eq_false_iff] at hcond
      exact ⟨hcond.1.1, hl⟩
  · contradiction

theorem branch_of_collectiveParts {cs l d₁ d₂ : List Char}
    (h : collectiveParts cs = some (l, d₁, d₂)) : l ≠ [] ∧ ∀ c ∈ l, isLetter c = true := by
  obtain ⟨l', r, rfl, hl, hlr⟩ := exists_run_append isLetter cs
  simp only [collectiveParts, spanLetters_append hl hlr] at h
  split at h
  · next hcond =>
      obtain ⟨rfl, -⟩ := Prod.mk.inj (Option.some.inj h)
      simp only [Bool.and_eq_true, Bool.not_eq_eq_eq_not, Bool.not_true,
        List.isEmpty_eq_false_iff] at hcond
      exact ⟨hcond.1, hl⟩
  · contradiction

end ObjectName

/-! ## The readers on written names -/

namespace PhysicsObject

open ObjectName Text

variable (w : Side) {e : List Char}

theorem singleOfName_text (he : atEnd e = true) (hw : w.single = true) :
    singleOfName (String.ofList (w.text ++ e)) = .ok w.object := by
  have hparts : singleParts (strip (String.ofList (w.text ++ e))).toList =
      some (w.branch, w.start) := by
    rw [w.strip_text_append he, ← List.append_nil w.text,
      w.singleParts_text_append (stops_of_atEnd rfl)]
    simp [hw, atEnd]
  simp only [singleOfName, hparts, Side.object, hw, if_true]

theorem collectiveOfName_text (he : atEnd e = true) (hw : w.single = false) :
    collectiveOfName (String.ofList (w.text ++ e)) = .ok w.object := by
  -- the stripped text is checked, the text as given is taken apart
  have hcheck : isCollective (strip (String.ofList (w.text ++ e))).toList = true := by
    rw [w.strip_text_append he, ← List.append_nil w.text,
      w.isCollective_text_append (stops_of_atEnd rfl)]
    simp [hw, atEnd]
  have hparts : collectiveParts (String.ofList (w.text ++ e)).toList =
      some (w.branch, w.start, w.stop) := by
    rw [String.toList_ofList, w.collectiveParts_text_append (stops_of_atEnd he), if_pos he]
  simp only [collectiveOfName, hcheck, hparts, Side.object, hw, if_true]
  rfl

theorem isSingle_text_end (he : atEnd e = true) : isSingle (w.text ++ e) = w.single := by
  simp [w.isSingle_text_append (stops_of_atEnd he), he]

theorem isCollective_text_end (he : atEnd e = true) :
    isCollective (w.text ++ e) = !w.single := by
  simp [w.isCollective_text_append (stops_of_atEnd he), he]

theorem partOfName_text (he : atEnd e = true) :
    partOfName (String.ofList (w.text ++ e)) = .ok w.object := by
  simp only [partOfName, String.toList_ofList, isSingle_text_end w he]
  split
  · next hw => exact singleOfName_text w he hw
  · next hw => exact collectiveOfName_text w he (by simpa using hw)

theorem memberOfName_text (he : atEnd e = true) :
    memberOfName (String.ofList (w.text ++ e)) = .ok w.object := by
  simp only [memberOfName, String.toList_ofList, isSingle_text_end w he,
    isCollective_text_end w he]
  split
  · next hw => exact singleOfName_text w he hw
  · next hw =>
      have hw : w.single = false := by simpa using hw
      simp only [hw, Bool.not_false, if_true]
      exact collectiveOfName_text w he hw

/-! ### Two sides around a dot -/

variable (w₁ w₂ : Side)

theorem splitOn_nested_text (he : atEnd e = true) :
    splitOn (String.ofList (w₁.text ++ '.' :: (w₂.text ++ e))) "." =
      [String.ofList w₁.text, String.ofList (w₂.text ++ e)] := by
  have hnot : '.' ∉ w₂.text ++ e := by
    simp [w₂.dot_not_mem_text, not_mem_of_atEnd (d := '.') (by decide) he]
  rw [splitOn_eq (d := '.') rfl, String.toList_ofList, splitList_append_sep,
    splitList_of_not_mem w₁.dot_not_mem_text, splitList_of_not_mem hnot]
  simp

theorem isNested_text (he : atEnd e = true) :
    isNested (w₁.text ++ '.' :: (w₂.text ++ e)) = true := by
  simp [isNested, w₁.spanPart_text_append (stops_dot _),
    w₂.spanPart_text_append (stops_of_atEnd he), he]

theorem isSingle_nested_text : isSingle (w₁.text ++ '.' :: (w₂.text ++ e)) = false := by
  simp [w₁.isSingle_text_append (stops_dot _), atEnd]

theorem isCollective_nested_text : isCollective (w₁.text ++ '.' :: (w₂.text ++ e)) = false := by
  simp [w₁.isCollective_text_append (stops_dot _), atEnd]

theorem nestedOfName_text (he : atEnd e = true) :
    nestedOfName (String.ofList (w₁.text ++ '.' :: (w₂.text ++ e))) =
      .ok (.nested w₁.object w₂.object) := by
  have hdot : (String.ofList (w₁.text ++ '.' :: (w₂.text ++ e))).contains '.' = true := by
    simp [String.contains_char_eq]
  have hmain : partOfName (String.ofList w₁.text) = .ok w₁.object := by
    simpa using partOfName_text w₁ (e := []) rfl
  simp only [nestedOfName, hdot, if_true, splitOn_nested_text w₁ w₂ he, hmain,
    partOfName_text w₂ he, Outcome.ok_bind, Outcome.pure_eq_ok]

theorem memberOfName_nested_text (he : atEnd e = true) :
    memberOfName (String.ofList (w₁.text ++ '.' :: (w₂.text ++ e))) =
      .ok (.nested w₁.object w₂.object) := by
  simp only [memberOfName, String.toList_ofList, isSingle_nested_text, isCollective_nested_text]
  exact nestedOfName_text w₁ w₂ he

/-! ### Whole names -/

theorem ofName_text (he : atEnd e = true) :
    ofName (String.ofList (w.text ++ e)) = .ok w.object := by
  simp only [ofName, String.toList_ofList, isSingle_text_end w he, isCollective_text_end w he]
  split
  · next hw => exact singleOfName_text w he hw
  · next hw =>
      have hw : w.single = false := by simpa using hw
      simp only [hw, Bool.not_false, if_true]
      exact collectiveOfName_text w he hw

theorem ofName_nested_text (he : atEnd e = true) :
    ofName (String.ofList (w₁.text ++ '.' :: (w₂.text ++ e))) =
      .ok (.nested w₁.object w₂.object) := by
  simp only [ofName, String.toList_ofList, isSingle_nested_text, isCollective_nested_text,
    isNested_text w₁ w₂ he, Bool.false_eq_true, if_false, if_true]
  exact nestedOfName_text w₁ w₂ he

end PhysicsObject

end ColliderML
