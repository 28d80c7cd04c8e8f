import Mathlib
import ColliderML.Text.Basic

/-!
# Stripping and splitting at one character

Names are taken apart by splitting at a dot or a comma and by stripping blanks.
For a one-character separator the pieces and the separators give the text back,
and a text joined from pieces free of the separator splits into those pieces;
the two facts below carry every later argument about names built by joining.
A longer separator splits a joined text back into its pieces too, when no
piece holds its first character, as the type texts of arrays are split.
-/

namespace ColliderML.Text

/-! ## Stripping -/

theorem dropBlanks_cons_of_not_blank {c : Char} (h : isBlank c = false) (cs : List Char) :
    dropBlanks (c :: cs) = c :: cs := by
  simp [dropBlanks, h]

theorem dropBlanks_append_of_blank {e : List Char} (h : ∀ c ∈ e, isBlank c = true)
    (cs : List Char) : dropBlanks (e ++ cs) = dropBlanks cs := by
  induction e with
  | nil => rfl
  | cons c e ih =>
      have hc : isBlank c = true := h c (by simp)
      rw [List.cons_append, dropBlanks, if_pos hc]
      exact ih (fun d hd => h d (by simp [hd]))

theorem dropBlanks_of_blank {e : List Char} (h : ∀ c ∈ e, isBlank c = true) :
    dropBlanks e = [] := by
  simpa [dropBlanks] using dropBlanks_append_of_blank h []

theorem toList_strip {s : String} {core e : List Char} (hs : s.toList = core ++ e)
    (hfirst : ∀ c ∈ core.head?, isBlank c = false)
    (hlast : ∀ c ∈ core.getLast?, isBlank c = false)
    (he : ∀ c ∈ e, isBlank c = true) : (strip s).toList = core := by
  have hrev : ∀ c ∈ e.reverse, isBlank c = true := fun c hc => he c (List.mem_reverse.mp hc)
  cases core with
  | nil =>
      simp [strip, hs, dropBlanks_of_blank he, dropBlanks]
  | cons c cs =>
      have hc : isBlank c = false := hfirst c (by simp)
      have hfront : dropBlanks ((c :: cs) ++ e) = (c :: cs) ++ e := by
        rw [List.cons_append, dropBlanks_cons_of_not_blank hc]
      -- the last character of the core is the first one left after the blanks
      obtain ⟨init, d, hinit⟩ := List.eq_nil_or_concat (c :: cs) |>.resolve_left (by simp)
      rw [List.concat_eq_append] at hinit
      have hd : isBlank d = false := hlast d (by simp [hinit])
      have hback : dropBlanks ((c :: cs) ++ e).reverse = (c :: cs).reverse := by
        rw [List.reverse_append, dropBlanks_append_of_blank hrev, hinit, List.reverse_append]
        exact dropBlanks_cons_of_not_blank hd _
      simp only [strip, hs, hfront, hback, List.reverse_reverse, String.toList_ofList]

theorem exists_blanks_dropBlanks (cs : List Char) :
    ∃ lead, cs = lead ++ dropBlanks cs ∧ (∀ c ∈ lead, isBlank c = true) ∧
      ∀ c ∈ (dropBlanks cs).head?, isBlank c = false := by
  induction cs with
  | nil => exact ⟨[], rfl, by simp, by simp [dropBlanks]⟩
  | cons c cs ih =>
      cases hc : isBlank c with
      | true =>
          obtain ⟨lead, hcs, hlead, hhead⟩ := ih
          have hdrop : dropBlanks (c :: cs) = dropBlanks cs := by simp [dropBlanks, hc]
          refine ⟨c :: lead, ?_, ?_, ?_⟩
          · rw [hdrop, List.cons_append, ← hcs]
          · intro d hd
            rcases List.mem_cons.mp hd with rfl | hd
            · exact hc
            · exact hlead d hd
          · rwa [hdrop]
      | false =>
          refine ⟨[], ?_, by simp, ?_⟩
          · rw [dropBlanks_cons_of_not_blank hc, List.nil_append]
          · simpa [dropBlanks_cons_of_not_blank hc] using hc

theorem exists_blanks_around_strip (s : String) :
    ∃ lead trail, s.toList = lead ++ (strip s).toList ++ trail ∧ (∀ c ∈ lead, isBlank c = true) ∧
      (∀ c ∈ trail, isBlank c = true) ∧ (∀ c ∈ (strip s).toList.head?, isBlank c = false) ∧
      ∀ c ∈ (strip s).toList.getLast?, isBlank c = false := by
  obtain ⟨lead, hs, hlead, hfront⟩ := exists_blanks_dropBlanks s.toList
  obtain ⟨back, hm, hback, hlast⟩ := exists_blanks_dropBlanks (dropBlanks s.toList).reverse
  -- the blanks dropped from the reversed text are those after the stripped text
  have hstrip : (strip s).toList = (dropBlanks (dropBlanks s.toList).reverse).reverse := by
    simp [strip]
  have hmid : dropBlanks s.toList = (strip s).toList ++ back.reverse := by
    rw [hstrip, ← List.reverse_append, ← hm, List.reverse_reverse]
  refine ⟨lead, back.reverse, ?_, hlead, fun c hc => hback c (List.mem_reverse.mp hc), ?_, ?_⟩
  · rw [List.append_assoc, ← hmid]
    exact hs
  · intro c hc
    apply hfront c
    rw [hmid]
    cases h : (strip s).toList with
    | nil => simp [h] at hc
    | cons d ds => simpa [h] using hc
  · intro c hc
    apply hlast c
    rw [hstrip, List.getLast?_reverse] at hc
    exact hc

theorem strip_strip (s : String) : strip (strip s) = strip s := by
  obtain ⟨-, -, -, -, -, hfirst, hlast⟩ := exists_blanks_around_strip s
  apply String.toList_inj.mp
  exact toList_strip (List.append_nil _).symm hfirst hlast (by simp)

/-! ## Splitting at one character -/

theorem splitList_nil (sep acc : List Char) : splitList sep [] acc = [acc.reverse] := by
  rw [splitList]

theorem splitList_sep (d : Char) (cs acc : List Char) :
    splitList [d] (d :: cs) acc = acc.reverse :: splitList [d] cs [] := by
  rw [splitList]
  simp [isPrefix]

theorem splitList_cons_of_ne {c d : Char} (h : c ≠ d) (cs acc : List Char) :
    splitList [d] (c :: cs) acc = splitList [d] cs (c :: acc) := by
  rw [splitList]
  simp [isPrefix, Ne.symm h]

theorem splitList_of_not_mem {d : Char} {cs : List Char} (h : d ∉ cs) (acc : List Char) :
    splitList [d] cs acc = [acc.reverse ++ cs] := by
  induction cs generalizing acc with
  | nil => simp [splitList_nil]
  | cons c cs ih =>
      have hc : c ≠ d := fun hcd => h (by simp [hcd])
      rw [splitList_cons_of_ne hc, ih (fun hd => h (by simp [hd]))]
      simp

theorem splitList_ne_nil (d : Char) (cs acc : List Char) : splitList [d] cs acc ≠ [] := by
  induction cs generalizing acc with
  | nil => simp [splitList_nil]
  | cons c cs ih =>
      by_cases hc : c = d
      · subst hc
        simp [splitList_sep]
      · rw [splitList_cons_of_ne hc]
        exact ih _

theorem splitList_append_sep (d : Char) (s t acc : List Char) :
    splitList [d] (s ++ d :: t) acc = splitList [d] s acc ++ splitList [d] t [] := by
  induction s generalizing acc with
  | nil => simp [splitList_sep, splitList_nil]
  | cons c s ih =>
      by_cases hc : c = d
      · subst hc
        simp [splitList_sep, ih]
      · simp [splitList_cons_of_ne hc, ih]

theorem splitList_intercalate {d : Char} {parts : List (List Char)} (hne : parts ≠ [])
    (h : ∀ p ∈ parts, d ∉ p) : splitList [d] (List.intercalate [d] parts) [] = parts := by
  induction parts with
  | nil => exact absurd rfl hne
  | cons p rest ih =>
      have hp : d ∉ p := h p (by simp)
      cases rest with
      | nil => simp [splitList_of_not_mem hp]
      | cons q rest =>
          rw [List.intercalate_cons_cons, List.append_assoc, List.singleton_append,
            splitList_append_sep, splitList_of_not_mem hp,
            ih (by simp) (fun r hr => h r (by simp [hr]))]
          simp

theorem intercalate_splitList (d : Char) (s acc : List Char) :
    List.intercalate [d] (splitList [d] s acc) = acc.reverse ++ s := by
  induction s generalizing acc with
  | nil => simp [splitList_nil]
  | cons c s ih =>
      by_cases hc : c = d
      · subst hc
        rw [splitList_sep, List.intercalate_cons_of_ne_nil (splitList_ne_nil c s []), ih]
        simp
      · rw [splitList_cons_of_ne hc, ih]
        simp

theorem not_mem_of_mem_splitList {d : Char} {s acc piece : List Char} (hacc : d ∉ acc)
    (h : piece ∈ splitList [d] s acc) : d ∉ piece := by
  induction s generalizing acc with
  | nil =>
      rw [splitList_nil, List.mem_singleton] at h
      subst h
      simpa using hacc
  | cons c s ih =>
      by_cases hc : c = d
      · subst hc
        rw [splitList_sep] at h
        rcases List.mem_cons.mp h with rfl | h
        · simpa using hacc
        · exact ih (by simp) h
      · rw [splitList_cons_of_ne hc] at h
        exact ih (by simp [hacc, Ne.symm hc]) h

theorem two_le_length_splitList {d : Char} {s : List Char} (h : d ∈ s) :
    2 ≤ (splitList [d] s []).length := by
  obtain ⟨a, b, rfl⟩ := List.append_of_mem h
  rw [splitList_append_sep, List.length_append]
  have h1 := List.length_pos_iff.mpr (splitList_ne_nil d a [])
  have h2 := List.length_pos_iff.mpr (splitList_ne_nil d b [])
  omega

/-! ## Splitting at a longer separator -/

theorem isPrefix_append (p t : List Char) : isPrefix p (p ++ t) = true := by
  induction p with
  | nil => rfl
  | cons c p ih => simp [isPrefix, ih]

theorem splitList_sep_append {sep : List Char} (hsep : sep ≠ []) (t acc : List Char) :
    splitList sep (sep ++ t) acc = acc.reverse :: splitList sep t [] := by
  obtain ⟨c, cs, rfl⟩ := List.exists_cons_of_ne_nil hsep
  rw [List.cons_append, splitList,
    dif_pos ⟨hsep, by rw [← List.cons_append]; exact isPrefix_append _ _⟩]
  simp

theorem splitList_cons_of_ne_head {c d : Char} {rest : List Char} (h : c ≠ d) (cs acc : List Char) :
    splitList (d :: rest) (c :: cs) acc = splitList (d :: rest) cs (c :: acc) := by
  rw [splitList]
  simp [isPrefix, Ne.symm h]

theorem splitList_of_head_not_mem {d : Char} {rest cs : List Char} (h : d ∉ cs) (acc : List Char) :
    splitList (d :: rest) cs acc = [acc.reverse ++ cs] := by
  induction cs generalizing acc with
  | nil => simp [splitList_nil]
  | cons c cs ih =>
      have hc : c ≠ d := fun hcd => h (by simp [hcd])
      rw [splitList_cons_of_ne_head hc, ih (fun hd => h (by simp [hd]))]
      simp

theorem splitList_append_sep_of_head_not_mem {d : Char} {rest p : List Char} (h : d ∉ p)
    (t acc : List Char) :
    splitList (d :: rest) (p ++ (d :: rest) ++ t) acc =
      (acc.reverse ++ p) :: splitList (d :: rest) t [] := by
  induction p generalizing acc with
  | nil => simpa using splitList_sep_append (List.cons_ne_nil d rest) t acc
  | cons c p ih =>
      have hc : c ≠ d := fun hcd => h (by simp [hcd])
      rw [List.cons_append, List.cons_append, splitList_cons_of_ne_head hc,
        ih (fun hd => h (by simp [hd]))]
      simp

theorem splitList_intercalate_of_head_not_mem {d : Char} {rest : List Char} {parts : List (List Char)}
    (hne : parts ≠ []) (h : ∀ p ∈ parts, d ∉ p) :
    splitList (d :: rest) (List.intercalate (d :: rest) parts) [] = parts := by
  induction parts with
  | nil => exact absurd rfl hne
  | cons p more ih =>
      have hp : d ∉ p := h p (by simp)
      cases more with
      | nil => simp [splitList_of_head_not_mem hp]
      | cons q more =>
          rw [List.intercalate_cons_cons, splitList_append_sep_of_head_not_mem hp,
            ih (by simp) (fun r hr => h r (by simp [hr]))]
          simp

/-! ## Splitting texts -/

section

variable {d : Char} {sep : String}

theorem splitOn_eq (hsep : sep.toList = [d]) (s : String) :
    splitOn s sep = (splitList [d] s.toList).map String.ofList := by
  rw [splitOn, hsep]

theorem splitOn_intercalate (hsep : sep.toList = [d]) {parts : List String} (hne : parts ≠ [])
    (h : ∀ p ∈ parts, d ∉ p.toList) : splitOn (sep.intercalate parts) sep = parts := by
  rw [splitOn_eq hsep, String.toList_intercalate, hsep,
    splitList_intercalate (by simpa using hne) (by simpa using h)]
  simp [Function.comp_def, String.ofList_toList]

theorem intercalate_splitOn (hsep : sep.toList = [d]) (s : String) :
    sep.intercalate (splitOn s sep) = s := by
  rw [← String.toList_inj, String.toList_intercalate, splitOn_eq hsep, hsep, List.map_map]
  simp [Function.comp_def, String.toList_ofList, intercalate_splitList]

theorem splitOn_intercalate_of_head {rest : List Char} (hsep : sep.toList = d :: rest)
    {parts : List String} (hne : parts ≠ []) (h : ∀ p ∈ parts, d ∉ p.toList) :
    splitOn (sep.intercalate parts) sep = parts := by
  rw [splitOn, String.toList_intercalate, hsep,
    splitList_intercalate_of_head_not_mem (by simpa using hne) (by simpa using h)]
  simp [Function.comp_def, String.ofList_toList]

end

end ColliderML.Text
