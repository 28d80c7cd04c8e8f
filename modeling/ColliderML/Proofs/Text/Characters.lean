import Mathlib
import ColliderML.Text.Basic
import ColliderML.Text.Digit
import ColliderML.Text.Lower

/-!
# Blank characters, decimal digits and lower case

`isBlank` is a binary search in a table of code point ranges and
`isDecimalDigit` a linear search in a table of runs of ten.  A hit of either
search is turned here into the table entry that holds the code point, so a fact
about the two classes becomes a fact about two short tables, checked once over
the tables themselves: no decimal digit is blank.

Lower-casing is a map of characters, so it distributes over joined texts and
leaves ASCII characters other than capitals as they are.
-/

namespace ColliderML.Text

/-! ## Searching the tables -/

theorem searchRanges_sound {table : Array (Nat × Nat)} {n lo hi : Nat}
    (h : searchRanges table n lo hi = true) :
    ∃ r ∈ table.toList, r.1 ≤ n ∧ n ≤ r.2 := by
  fun_induction searchRanges table n lo hi with
  | case1 => simp at h
  | case2 _ _ _ _ _ _ _ _ ih => exact ih h
  | case3 _ _ _ _ _ _ _ _ _ ih => exact ih h
  | case4 _ _ _ _ a b hmid hlo hhi =>
      refine ⟨(a, b), ?_, by simp only; omega, by simp only; omega⟩
      exact Array.mem_toList_iff.mpr (Array.mem_of_getElem? hmid)
  | case5 => simp at h

theorem exists_blankRange_of_isBlank {c : Char} (h : isBlank c = true) :
    ∃ r ∈ blankRanges.toList, r.1 ≤ c.toNat ∧ c.toNat ≤ r.2 :=
  searchRanges_sound h

theorem exists_digitZero_of_isDecimalDigit {c : Char} (h : isDecimalDigit c = true) :
    ∃ z ∈ digitZeros.toList, z ≤ c.toNat ∧ c.toNat < z + 10 := by
  simp only [isDecimalDigit, digitValue?] at h
  split at h
  · -- an ASCII digit lies in the first run, which starts at '0'
    have hdigit : c.isDigit = true := by
      cases hd : c.isDigit <;> simp_all
    have hrange := Char.isDigit_iff_toNat.mp hdigit
    simp only [Char.reduceToNat] at hrange
    exact ⟨48, by decide, hrange.1, by omega⟩
  · split at h
    · rename_i z hz
      have hp := List.find?_some hz
      simp only [decide_eq_true_eq] at hp
      exact ⟨z, List.mem_of_find?_eq_some hz, hp.1, hp.2⟩
    · simp at h

theorem blankRanges_disjoint_digitZeros :
    ∀ r ∈ blankRanges.toList, ∀ z ∈ digitZeros.toList, r.2 < z ∨ z + 10 ≤ r.1 := by
  decide

theorem isBlank_eq_false_of_isDecimalDigit {c : Char} (h : isDecimalDigit c = true) :
    isBlank c = false := by
  cases hb : isBlank c with
  | false => rfl
  | true =>
      obtain ⟨r, hr, hr1, hr2⟩ := exists_blankRange_of_isBlank hb
      obtain ⟨z, hz, hz1, hz2⟩ := exists_digitZero_of_isDecimalDigit h
      rcases blankRanges_disjoint_digitZeros r hr z hz with hd | hd <;> omega

theorem digitValue?_of_isDigit {c : Char} (h : c.isDigit = true) :
    digitValue? c = some (c.toNat - 48) := by
  have hrange := Char.isDigit_iff_toNat.mp h
  simp only [Char.reduceToNat] at hrange
  have hlt : c.toNat < 128 := by omega
  simp [digitValue?, hlt, h]

theorem isDecimalDigit_of_isDigit {c : Char} (h : c.isDigit = true) : isDecimalDigit c = true := by
  simp [isDecimalDigit, digitValue?_of_isDigit h]

theorem isBlank_eq_false_of_lt {c : Char} (h1 : 32 < c.toNat) (h2 : c.toNat < 128) :
    isBlank c = false := by
  cases hb : isBlank c with
  | false => rfl
  | true =>
      obtain ⟨r, hr, hr1, hr2⟩ := exists_blankRange_of_isBlank hb
      have hfar : ∀ r ∈ blankRanges.toList, r.2 ≤ 32 ∨ 133 ≤ r.1 := by decide
      rcases hfar r hr with hd | hd <;> omega

theorem isBlank_newline : isBlank '\n' = true := by decide +kernel

/-! ## Lower case -/

theorem lower_append (a b : String) : lower (a ++ b) = lower a ++ lower b := by
  simp [lower, String.toList_append, List.flatMap_append, String.ofList_append]

theorem lowerChar_of_lt {c : Char} (h : c.toNat < 128) : lowerChar c = [c.toLower] := by
  simp [lowerChar, h]

theorem flatMap_lowerChar_of_forall {cs : List Char} (h : ∀ c ∈ cs, lowerChar c = [c.toLower]) :
    cs.flatMap lowerChar = cs.map Char.toLower := by
  induction cs with
  | nil => rfl
  | cons c cs ih =>
      rw [List.flatMap_cons, h c (by simp), ih fun d hd => h d (by simp [hd])]
      rfl

theorem flatMap_lowerChar_of_lt {cs : List Char} (h : ∀ c ∈ cs, c.toNat < 128) :
    cs.flatMap lowerChar = cs.map Char.toLower :=
  flatMap_lowerChar_of_forall fun c hc => lowerChar_of_lt (h c hc)

theorem length_lowerChar_le (c : Char) : (lowerChar c).length ≤ 2 := by
  unfold lowerChar
  dsimp only
  split
  · simp
  · split
    · simp
    · split <;> simp

theorem length_lower_le (s : String) : (lower s).toList.length ≤ 2 * s.toList.length := by
  rw [lower, String.toList_ofList]
  induction s.toList with
  | nil => simp
  | cons c cs ih =>
      have hc := length_lowerChar_le c
      rw [List.flatMap_cons, List.length_append, List.length_cons]
      omega

theorem toList_lower_of_lt {s : String} (h : ∀ c ∈ s.toList, c.toNat < 128) :
    (lower s).toList = s.toList.map Char.toLower := by
  rw [lower, String.toList_ofList, flatMap_lowerChar_of_lt h]

theorem lower_eq_self {s : String}
    (h : ∀ c ∈ s.toList, c.toNat < 128 ∧ c.toLower = c) : lower s = s := by
  rw [← String.toList_inj, toList_lower_of_lt (fun c hc => (h c hc).1)]
  exact (List.map_congr_left fun c hc => (h c hc).2).trans (List.map_id _)

theorem lower_intercalate (sep : String) (l : List String) :
    lower (sep.intercalate l) = (lower sep).intercalate (l.map lower) := by
  induction l with
  | nil => rfl
  | cons a rest ih =>
      cases rest with
      | nil => simp
      | cons b rest =>
          rw [String.intercalate_cons_cons, lower_append, lower_append, ih]
          simp [String.intercalate_cons_cons]

theorem isUpper_iff {c : Char} : c.isUpper = true ↔ 65 ≤ c.toNat ∧ c.toNat ≤ 90 := by
  simp [Char.isUpper, UInt32.le_iff_toNat_le]

theorem toLower_of_not_isUpper {c : Char} (h : c.isUpper = false) : c.toLower = c := by
  have hnot : ¬ (65 ≤ c.toNat ∧ c.toNat ≤ 90) := fun hc => by simp [isUpper_iff.mpr hc] at h
  unfold Char.toLower
  rw [dif_neg]
  simpa [UInt32.le_iff_toNat_le] using hnot

theorem toNat_toLower_of_isUpper {c : Char} (h : c.isUpper = true) :
    c.toLower.toNat = c.toNat + 32 := by
  have hrange : 65 ≤ c.val.toNat ∧ c.val.toNat ≤ 90 := isUpper_iff.mp h
  unfold Char.toLower
  rw [dif_pos (by simpa [UInt32.le_iff_toNat_le] using hrange)]
  show (c.val + ('a'.val - 'A'.val)).toNat = c.val.toNat + 32
  have hshift : ('a'.val - 'A'.val).toNat = 32 := by decide
  rw [UInt32.toNat_add, hshift, Nat.mod_eq_of_lt (by omega)]

theorem toLower_of_isDigit {c : Char} (h : c.isDigit = true) : c.toLower = c := by
  have hrange := Char.isDigit_iff_toNat.mp h
  simp only [Char.reduceToNat] at hrange
  apply toLower_of_not_isUpper
  rw [Bool.eq_false_iff, ne_eq, isUpper_iff]
  omega

theorem lowerRuns_disjoint_digitZeros :
    (∀ r ∈ lowerRuns.toList, ∀ z ∈ digitZeros.toList, r.2.1 < z ∨ z + 10 ≤ r.1) ∧
      ∀ z ∈ digitZeros.toList, 304 < z ∨ z + 10 ≤ 304 := by
  decide +kernel

theorem lowerChar_of_isDecimalDigit {c : Char} (h : isDecimalDigit c = true) :
    lowerChar c = [c.toLower] := by
  by_cases hlt : c.toNat < 128
  · exact lowerChar_of_lt hlt
  · obtain ⟨z, hz, hz1, hz2⟩ := exists_digitZero_of_isDecimalDigit h
    have hupper : c.isUpper = false := Bool.eq_false_iff.mpr fun hu => by
      have := isUpper_iff.mp hu
      omega
    have h304 : c.toNat ≠ 304 := by
      have := lowerRuns_disjoint_digitZeros.2 z hz
      omega
    rw [toLower_of_not_isUpper hupper]
    unfold lowerChar
    dsimp only
    rw [if_neg (show ¬c.val.toNat < 128 from hlt), if_neg (show c.val.toNat ≠ 304 from h304)]
    split
    · next a b st d hfind =>
        -- the search of the table finds no run, since none holds the digit
        have hp := List.find?_some hfind
        have := lowerRuns_disjoint_digitZeros.1 _ (List.mem_of_find?_eq_some hfind) z hz
        dsimp only at this
        simp only [decide_eq_true_eq] at hp
        have hval : c.val.toNat = c.toNat := rfl
        omega
    · rfl

theorem lower_repr (i : Int) : lower i.repr = i.repr := by
  have hdigit : ∀ (n : Nat) (c : Char), c ∈ n.repr.toList → c.toNat < 128 ∧ c.toLower = c := by
    intro n c hc
    rw [Nat.toList_repr] at hc
    have hd := Nat.isDigit_of_mem_toDigits (by decide) (by decide) hc
    have hrange := Char.isDigit_iff_toNat.mp hd
    simp only [Char.reduceToNat] at hrange
    exact ⟨by omega, toLower_of_isDigit hd⟩
  apply lower_eq_self
  intro c hc
  rw [Int.repr_eq_if] at hc
  split at hc
  · exact hdigit _ c hc
  · -- a negative numeral is a minus sign before the digits
    rw [String.toList_append, List.mem_append] at hc
    rcases hc with hc | hc
    · have hminus : c = '-' := by simpa using hc
      subst hminus
      decide
    · exact hdigit _ c hc

end ColliderML.Text
