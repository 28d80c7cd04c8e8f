/-!
Membership in a table of code point ranges. A table lists inclusive ranges in
ascending order without overlap, so membership is a binary search: the range
that can hold a code point is the last one that starts at or before it.

Blank characters are the Unicode 14 white space, that is the separators of
category Zs and the characters whose bidirectional class is a segment, block
or white-space separator. Stripping and splitting on blanks use this set.
-/

namespace ColliderML.Text

def searchRanges (table : Array (Nat × Nat)) (n : Nat) (lo hi : Nat) : Bool :=
  if _h : lo < hi then
    let mid := (lo + hi) / 2
    match table[mid]? with
    | none => false
    | some (a, b) =>
      if n < a then searchRanges table n lo mid
      else if b < n then searchRanges table n (mid + 1) hi
      else true
  else false
termination_by hi - lo

def inRanges (table : Array (Nat × Nat)) (n : Nat) : Bool :=
  searchRanges table n 0 table.size

def blankRanges : Array (Nat × Nat) := #[
  (9, 13),
  (28, 32),
  (133, 133),
  (160, 160),
  (5760, 5760),
  (8192, 8202),
  (8232, 8233),
  (8239, 8239),
  (8287, 8287),
  (12288, 12288)]

def isBlank (c : Char) : Bool := inRanges blankRanges c.val.toNat

end ColliderML.Text
