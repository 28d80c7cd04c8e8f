import ColliderML.Text.Ranges
import ColliderML.Text.Lower

/-!
Operations on text used by the name grammars and the report formats: stripping
blanks, splitting on a separator, replacing every occurrence of a piece, and
splitting on runs of blanks. They work on character lists, and each one is a
structural or measured recursion.
-/

namespace ColliderML.Text

def dropBlanks : List Char → List Char
  | [] => []
  | c :: cs => if isBlank c then dropBlanks cs else c :: cs

def strip (s : String) : String :=
  String.ofList (dropBlanks (dropBlanks s.toList).reverse).reverse

def stripStart (s : String) : String := String.ofList (dropBlanks s.toList)

def stripEnd (s : String) : String :=
  String.ofList (dropBlanks s.toList.reverse).reverse

def isPrefix : List Char → List Char → Bool
  | [], _ => true
  | _ :: _, [] => false
  | a :: as, b :: bs => a == b && isPrefix as bs

theorem length_drop_lt {α : Type} (l : List α) (n : Nat) (hn : 0 < n) (hl : 0 < l.length) :
    (l.drop n).length < l.length := by
  rw [List.length_drop]; omega

/--
Splits a character list at every occurrence of a separator, scanning from the
left; the pieces between occurrences are kept, empty ones included. An empty
separator splits nothing.
-/
def splitList (sep : List Char) (s : List Char) (acc : List Char := []) : List (List Char) :=
  match s with
  | [] => [acc.reverse]
  | c :: cs =>
    if _h : sep ≠ [] ∧ isPrefix sep (c :: cs) = true then
      acc.reverse :: splitList sep ((c :: cs).drop sep.length) []
    else splitList sep cs (c :: acc)
termination_by s.length
decreasing_by
  · exact length_drop_lt _ _ (List.length_pos_iff.mpr _h.1) (by simp)
  · simp

def splitOn (s sep : String) : List String :=
  (splitList sep.toList s.toList).map String.ofList

/--
Replaces every occurrence of a piece, scanning from the left without overlap.
An empty piece occurs before every character and at the end.
-/
def replaceList (old new : List Char) (s : List Char) : List Char :=
  match s with
  | [] => if old = [] then new else []
  | c :: cs =>
    if _h : old ≠ [] ∧ isPrefix old (c :: cs) = true then
      new ++ replaceList old new ((c :: cs).drop old.length)
    else if old = [] then new ++ c :: replaceList old new cs
    else c :: replaceList old new cs
termination_by s.length
decreasing_by
  · exact length_drop_lt _ _ (List.length_pos_iff.mpr _h.1) (by simp)
  · simp
  · simp

def replace (s old new : String) : String :=
  String.ofList (replaceList old.toList new.toList s.toList)

def containsText (s piece : String) : Bool :=
  let p := piece.toList
  let rec go : List Char → Bool
    | [] => isPrefix p []
    | c :: cs => isPrefix p (c :: cs) || go cs
  go s.toList

def startsWith (s piece : String) : Bool := isPrefix piece.toList s.toList

def endsWith (s piece : String) : Bool := isPrefix piece.toList.reverse s.toList.reverse

def wordsList (s : List Char) (acc : List Char := []) : List (List Char) :=
  match s with
  | [] => if acc = [] then [] else [acc.reverse]
  | c :: cs =>
    if isBlank c then
      (if acc = [] then wordsList cs [] else acc.reverse :: wordsList cs [])
    else wordsList cs (c :: acc)

def words (s : String) : List String := (wordsList s.toList).map String.ofList

def lines (s : String) : List String :=
  let parts := splitOn s "\n"
  match parts.reverse with
  | "" :: rest => rest.reverse
  | _ => parts

def join (sep : String) : List String → String
  | [] => ""
  | [a] => a
  | a :: rest => a ++ sep ++ join sep rest

end ColliderML.Text
