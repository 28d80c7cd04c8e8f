import ColliderML.Text.Word
import ColliderML.Text.Ranges
import ColliderML.Text.Digit
import ColliderML.Text.Basic

/-!
# Patterns that locate a single cut in an expression

A single cut is found again in the rewritten expression by a pattern: the cut's
text with every point escaped, between two edges that are word boundaries or,
when those find nothing, blank characters. The text itself is read as a pattern,
so the characters that have a meaning in patterns keep it: `+`, `*` and `?`
repeat the step before them (a following `?` makes the repetition take as few
as it can), `.` unescaped is any character but a line break, `^` and `$` hold at
the ends, and `\` gives the classes `\s`, `\d`, `\w`, their complements, and
the word boundaries `\b` and `\B`; any other character is itself.

Matching tries the steps in order, the longest repetition first, and backs off
a repetition when the steps after it fail. A search takes the first position at
which the pattern matches; a substitution replaces, from left to right, every
match that does not overlap an earlier one.
-/

namespace ColliderML

/-- What one step of a pattern looks at. -/
inductive PatternAtom where
  /-- This character. -/
  | char (c : Char)
  /-- Any character but a line break. -/
  | anyChar
  /-- A blank character, or with `false` any other. -/
  | blank (yes : Bool)
  /-- A decimal digit, or with `false` any other character. -/
  | digit (yes : Bool)
  /-- A word character, or with `false` any other. -/
  | word (yes : Bool)
  /-- A word boundary, or with `false` a position that is not one. -/
  | boundary (yes : Bool)
  /-- The start of the text. -/
  | start
  /-- The end of the text, or just before a final line break. -/
  | finish
  deriving DecidableEq, Repr, Inhabited

/-- One step of a pattern: what it looks at, how often, and whether as often as it can. -/
structure PatternStep where
  atom : PatternAtom
  least : Nat := 1
  most : Option Nat := some 1
  greedy : Bool := true
  deriving DecidableEq, Repr, Inhabited

abbrev Pattern := List PatternStep

namespace PatternAtom

def isAssertion : PatternAtom → Bool
  | .boundary _ | .start | .finish => true
  | _ => false

def takes (a : PatternAtom) (c : Char) : Bool :=
  match a with
  | .char d => c == d
  | .anyChar => c != '\n'
  | .blank yes => Text.isBlank c == yes
  | .digit yes => Text.isDecimalDigit c == yes
  | .word yes => Text.isWordChar c == yes
  | _ => false

def wordAt (s : Array Char) (i : Int) : Bool :=
  if 0 ≤ i then
    match s[i.toNat]? with
    | some c => Text.isWordChar c
    | none => false
  else false

def holds (a : PatternAtom) (s : Array Char) (i : Nat) : Bool :=
  match a with
  | .boundary yes => (wordAt s ((i : Int) - 1) != wordAt s i) == yes
  | .start => i == 0
  | .finish => i == s.size || (i + 1 == s.size && s[i]? == some '\n')
  | _ => false

end PatternAtom

namespace Pattern

def escaped (c : Char) : PatternAtom :=
  match c with
  | 's' => .blank true
  | 'S' => .blank false
  | 'd' => .digit true
  | 'D' => .digit false
  | 'w' => .word true
  | 'W' => .word false
  | 'b' => .boundary true
  | 'B' => .boundary false
  | 'A' => .start
  | 'Z' => .finish
  | c => .char c

def repeatLast (steps : List PatternStep) (least : Nat) (most : Option Nat) (c : Char) :
    List PatternStep :=
  match steps with
  | last :: before =>
    if last.least == 1 && last.most == some 1 then { last with least, most } :: before
    else { atom := .char c } :: steps
  | [] => [{ atom := .char c }]

def repetition : Char → Option (Nat × Option Nat)
  | '*' => some (0, none)
  | '+' => some (1, none)
  | '?' => some (0, some 1)
  | _ => none

def sparing : List PatternStep → List PatternStep
  | last :: before => { last with greedy := false } :: before
  | [] => []

def plain (c : Char) : PatternAtom :=
  match c with
  | '.' => .anyChar
  | '^' => .start
  | '$' => .finish
  | c => .char c

def readSteps : List Char → List PatternStep → List PatternStep
  | [], acc => acc
  | '\\' :: c :: rest, acc => readSteps rest ({ atom := escaped c } :: acc)
  | c :: '?' :: rest, acc =>
    match repetition c with
    | some (least, most) => readSteps rest (sparing (repeatLast acc least most c))
    | none => readSteps rest (repeatLast ({ atom := plain c } :: acc) 0 (some 1) '?')
  | c :: rest, acc =>
    match repetition c with
    | some (least, most) => readSteps rest (repeatLast acc least most c)
    | none => readSteps rest ({ atom := plain c } :: acc)

def ofText (s : String) : Pattern := (readSteps s.toList []).reverse

def runLength (a : PatternAtom) (s : Array Char) (i : Nat) : Nat → Nat
  | 0 => 0
  | n + 1 =>
    match s[i]? with
    | some c => if a.takes c then runLength a s (i + 1) n + 1 else 0
    | none => 0

def counts (step : PatternStep) (run : Nat) : List Nat :=
  let top := match step.most with
    | some m => min m run
    | none => run
  let all := (List.range (top + 1)).filter (fun k => step.least ≤ k)
  if step.greedy then all.reverse else all

def matchHere (s : Array Char) : Pattern → Nat → Option Nat
  | [], i => some i
  | step :: rest, i =>
    if step.atom.isAssertion then
      if step.least == 0 || step.atom.holds s i then matchHere s rest i else none
    else
      let run := runLength step.atom s i (s.size - i)
      (counts step run).findSome? (fun k => matchHere s rest (i + k))

def searchFrom (p : Pattern) (s : Array Char) (i : Nat) : Option (Nat × Nat) :=
  ((List.range (s.size + 1 - i)).map (· + i)).findSome? (fun j => (matchHere s p j).map (j, ·))

def found (p : Pattern) (s : String) : Bool := (searchFrom p s.toList.toArray 0).isSome

def substituteFrom (p : Pattern) (s : Array Char) (piece : List Char) : Nat → Nat → List Char
  | 0, _ => []
  | fuel + 1, i =>
    match searchFrom p s i with
    | none => (s.extract i s.size).toList
    | some (j, e) =>
      let before := (s.extract i j).toList
      if e == j then
        before ++ piece ++ (s.extract j (j + 1)).toList ++ substituteFrom p s piece fuel (j + 1)
      else before ++ piece ++ substituteFrom p s piece fuel e

def substitute (p : Pattern) (s : String) (piece : String) : String :=
  let cs := s.toList.toArray
  String.ofList (substituteFrom p cs piece.toList (cs.size + 2) 0)

end Pattern

end ColliderML
