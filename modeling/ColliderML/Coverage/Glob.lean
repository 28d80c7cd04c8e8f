import ColliderML.Error

/-!
# File patterns of the coverage collector

The collector leaves out every file whose absolute path matches one of the
patterns it is given. A pattern is read from left to right; at each position
the first of these readings that applies is taken:

* three or more stars, a star pair right after other characters of a path
  part, a star pair followed by such characters, and `**/**` are refused;
* stars then a separator at the very start of the pattern, or `**/` anywhere,
  stand for any directories: nothing, or any text that ends with a separator;
* a separator then stars at the very end match a separator and anything after it;
* `/` matches either separator, `/` or `\`;
* `*` matches any characters other than separators, and `?` exactly one;
* `[...]`, up to the first closing bracket, is a class of characters;
* a lone bracket is refused, and any other character matches itself.

A path matches a pattern when the whole path matches it.
-/

namespace ColliderML.Coverage

inductive GlobPiece where
  /-- Nothing, or any text that ends with a separator. -/
  | anyDirectories
  /-- A separator and anything after it. -/
  | anyTail
  /-- Any run of characters other than separators. -/
  | anyPart
  /-- One character other than a separator. -/
  | oneChar
  /-- A class of characters given by ranges, or its complement. -/
  | charClass (complement : Bool) (ranges : List (Char × Char))
  /-- A separator. -/
  | separator
  /-- This character. -/
  | literal (c : Char)
  deriving DecidableEq, Repr

abbrev FilePattern := List GlobPiece

def isSeparator (c : Char) : Bool := c == '/' || c == '\\'

def classRanges : List Char → List (Char × Char)
  | a :: '-' :: b :: rest => (a, b) :: classRanges rest
  | a :: rest => (a, a) :: classRanges rest
  | [] => []

def classPiece : List Char → GlobPiece
  | '^' :: body => .charClass true (classRanges body)
  | body => .charClass false (classRanges body)

def inClass (complement : Bool) (ranges : List (Char × Char)) (c : Char) : Bool :=
  ranges.any (fun r => decide (r.1 ≤ c ∧ c ≤ r.2)) != complement

def leadingStars (cs : List Char) : Nat := (cs.takeWhile (· == '*')).length

/-- The text before the last star pair of a path part, with the pair, when
something comes before it in the part: the longest start of the part that ends
in two stars and has at least one character before them. -/
def starPairAfterText (part : List Char) : Option (List Char) :=
  let ends := (List.range part.length).filter (fun j =>
    1 ≤ j && part.getD j ' ' == '*' && part.getD (j + 1) ' ' == '*')
  ends.getLast?.map (fun j => part.take (j + 2))

def refusal (text : List Char) : Error :=
  .other .badConfiguration ("File pattern can't include '" ++ String.ofList text ++ "'")

/-- Reads the pieces of a pattern from a position; `atStart` tells whether the
position is the start of the pattern. The fuel bounds the number of pieces. -/
def readPieces : Nat → Bool → List Char → Except Error FilePattern
  | 0, _, _ => .ok []
  | _, _, [] => .ok []
  | fuel + 1, atStart, cs =>
    let stars := leadingStars cs
    let part := cs.takeWhile (· != '/')
    let next := fun (piece : List GlobPiece) (rest : List Char) =>
      (piece ++ ·) <$> readPieces fuel false rest
    if 3 ≤ stars then .error (refusal (cs.take stars))
    else match starPairAfterText part with
    | some text => .error (refusal text)
    | none =>
      if stars == 2 && (cs.drop 2).head?.any (· != '/') then
        .error (refusal ("**".toList ++ (cs.drop 2).takeWhile (· != '/')))
      else if cs.take 5 == "**/**".toList then .error (refusal (cs.take 5))
      else if atStart && 1 ≤ stars && cs.getD stars ' ' == '/' then
        next [.anyDirectories] (cs.drop (stars + 1))
      else match cs with
      | '/' :: more =>
        if !more.isEmpty && more.all (· == '*') then .ok [.anyTail]
        else next [.separator] more
      | '*' :: '*' :: '/' :: more => next [.anyDirectories] more
      | '*' :: more => next [.anyPart] more
      | '?' :: more => next [.oneChar] more
      | '[' :: more =>
        match more.findIdx? (· == ']') with
        | some k => next [classPiece (more.take k)] (more.drop (k + 1))
        | none => .error (refusal ['['])
      | ']' :: _ => .error (refusal [']'])
      | c :: more => next [.literal c] more
      | [] => .ok []

def FilePattern.parse (text : String) : Except Error FilePattern :=
  readPieces (text.length + 1) true text.toList

def afterSeparators : List Char → List (List Char)
  | [] => []
  | c :: rest => (if isSeparator c then [rest] else []) ++ afterSeparators rest

def afterPart : List Char → List (List Char)
  | [] => [[]]
  | c :: rest => (c :: rest) :: (if isSeparator c then [] else afterPart rest)

def suffixes : List Char → List (List Char)
  | [] => [[]]
  | c :: rest => (c :: rest) :: suffixes rest

def matchPieces : FilePattern → List Char → Bool
  | [], path => path.isEmpty
  | .anyDirectories :: rest, path =>
    matchPieces rest path || (afterSeparators path).any (fun v => matchPieces rest v)
  | .anyTail :: rest, c :: more =>
    isSeparator c && (suffixes more).any (fun v => matchPieces rest v)
  | .anyPart :: rest, path => (afterPart path).any (fun v => matchPieces rest v)
  | .oneChar :: rest, c :: more => !isSeparator c && matchPieces rest more
  | .charClass complement ranges :: rest, c :: more =>
    inClass complement ranges c && matchPieces rest more
  | .separator :: rest, c :: more => isSeparator c && matchPieces rest more
  | .literal d :: rest, c :: more => c == d && matchPieces rest more
  | _ :: _, [] => false

def FilePattern.matches (p : FilePattern) (path : String) : Bool :=
  matchPieces p path.toList

end ColliderML.Coverage
