import ColliderML.Markup.Entity
import ColliderML.Text.Ranges
import ColliderML.Text.Lower
import ColliderML.Text.Basic

/-!
Scanning markup into events: opening and closing tags, text, and asides
(comments, declarations and processing instructions, whose strings are not
text).

Text runs to the next `<` or `&`. A `<` opens a tag when a letter follows, a
closing tag when `/` follows, a comment with `!--`, a processing instruction
with `?` and a declaration with `!`; otherwise it is text. A tag's attributes
may hold quoted values, in which `>` does not end the tag; the tag's name is
lower-cased and its attributes are dropped. The content of `script` and
`style` is text up to the matching closing tag. References (`&name;`, `&#n;`,
`&#xh;`) become the characters they stand for; an unknown name stays as
written, without its semicolon.

The scan makes two passes over what is not yet understood. The first stops at
the first construct that is cut short (a tag without its `>`, a reference at
the end, a numeric reference that is malformed); the second, final pass starts
there and reads a cut-short tag as text up to its next `>`. A construct the
final pass cannot read either makes the rest of the markup text, except inside
`script` or `style`, whose unfinished content is dropped.
-/

namespace ColliderML.Markup

inductive Event where
  /-- A tag opened, as `<name …>`. -/
  | openTag (name : String)
  /-- A tag written closed at once, as `<name …/>`. -/
  | emptyTag (name : String)
  | closeTag (name : String)
  | text (s : String)
  /-- A comment, declaration or processing instruction. -/
  | aside (s : String)
  deriving Inhabited, Repr

abbrev Source := Array Char

namespace Source

def slice (s : Source) (i j : Nat) : String := String.ofList (s.extract i j).toList

def startsAt (s : Source) (i : Nat) : List Char → Bool
  | [] => true
  | c :: rest => s[i]? == some c && startsAt s (i + 1) rest

def findChar (s : Source) (p : Char → Bool) (i : Nat) : Option Nat :=
  let rec go : Nat → Nat → Option Nat
    | 0, _ => none
    | fuel + 1, j =>
      match s[j]? with
      | some c => if p c then some j else go fuel (j + 1)
      | none => none
  go (s.size - i) i

def findWhere (s : Source) (q : Nat → Bool) (i : Nat) : Option Nat :=
  let rec go : Nat → Nat → Option Nat
    | 0, _ => none
    | fuel + 1, j => if q j then some j else go fuel (j + 1)
  go (s.size - i) i

def skip (s : Source) (p : Char → Bool) (i : Nat) : Nat :=
  (s.findChar (fun c => !p c) i).getD (max i s.size)

end Source

open Source

def isSpace (c : Char) : Bool := Text.isBlank c

def isLetter (c : Char) : Bool := ('a' ≤ c && c ≤ 'z') || ('A' ≤ c && c ≤ 'Z')

def isAlnum (c : Char) : Bool := isLetter c || ('0' ≤ c && c ≤ '9')

def isHexDigit (c : Char) : Bool :=
  ('0' ≤ c && c ≤ '9') || ('a' ≤ c && c ≤ 'f') || ('A' ≤ c && c ≤ 'F')

def isNameChar (c : Char) : Bool :=
  !(c = '\t' || c = '\n' || c = '\r' || c = '\x0c' || c = ' ' || c = '/' || c = '>' || c = '\x00')

def isCloseNameChar (c : Char) : Bool := isAlnum c || c = '-' || c = '.' || c = ':' || c = '_'

def skipGaps (s : Source) (i : Nat) : Nat :=
  s.findWhere (fun j => match s[j]? with
    | some c => !(isSpace c || (c = '/' && s[j + 1]? != some '>'))
    | none => true) i |>.getD (max i s.size)

/-- The end of an attribute's value part (`= value`) after its name, if it has one.
A quoted value runs to its closing quote; an unclosed quote is read back as an
empty or bare value where that can still match. -/
def valueEnd (s : Source) (afterName : Nat) : Option Nat :=
  let r := s.skip isSpace afterName
  if s[r]? != some '=' then none
  else
    let e := s.skip (· = '=') r
    let w := s.skip isSpace e
    let bare := fun (p : Nat) => s.skip (fun c => !(c = '>' || isSpace c)) p
    match s[w]? with
    | some q =>
      if q = '\'' || q = '"' then
        match s.findChar (· = q) (w + 1) with
        | some t => some (t + 1)
        | none =>
          if w > e then some (w - 1)
          else if e - r ≥ 2 then some (bare (e - 1))
          else none
      else some (bare w)
    | none => some w

def attributeEnd (s : Source) (i : Nat) : Option Nat :=
  match i, s[i]? with
  | 0, _ => none
  | k + 1, some c =>
    match s[k]? with
    | some b =>
      if (b = '\'' || b = '"' || isSpace b || b = '/') && !(isSpace c || c = '/' || c = '>') then
        let nameEnd := s.skip (fun c => !(isSpace c || c = '/' || c = '=' || c = '>')) (i + 1)
        let after := match valueEnd s nameEnd with
          | some v => s.skip isSpace v
          | none => nameEnd
        some (skipGaps s after)
      else none
    | none => none
  | _, none => none

def attributesEnd (s : Source) (i : Nat) : Nat :=
  let rec go : Nat → Nat → Nat
    | 0, j => j
    | fuel + 1, j =>
      match attributeEnd s j with
      | some k => if k > j then go fuel k else j
      | none => j
  go (s.size + 1 - i) i

/-- The end of a tag opened at `i` whose name ends at `n`: after `>`, or after
`/>`, or none when the tag is cut short. A tag broken off by other text ends
where its attributes end. -/
def tagEnd (s : Source) (i n : Nat) : Option Nat :=
  let p := s.skip (fun c => isSpace c || c = '/') n
  let j := s.skip isSpace (attributesEnd s p)
  match s[j]? with
  | some '>' => some (j + 1)
  | some '/' => if s[j + 1]? == some '>' then some (j + 2) else none
  | none => none
  | some c =>
    if isLetter c || c = '=' || c = '/' then none
    else if j > i then some j else some (i + 1)

/-- What one construct gives: events, the next position, and the element whose
content is read as text up to its closing tag, if any. -/
abbrev Found := List Event × Nat × Option String

def openingTag (s : Source) (i : Nat) : Option Found := do
  let n := s.skip isNameChar (i + 2)
  let endpos ← tagEnd s i n
  let name := Text.lower (s.slice (i + 1) n)
  let k := attributesEnd s (skipGaps s n)
  let rest := Text.strip (s.slice k endpos)
  if rest = ">" then
    pure ([.openTag name], endpos, if name = "script" || name = "style" then some name else none)
  else if rest = "/>" then pure ([.emptyTag name], endpos, none)
  else pure ([.text (s.slice i endpos)], endpos, none)

/-- A closing tag at `i` (which starts `</`), none when no `>` follows. Inside
`script` or `style` only the matching closing tag ends the content. -/
def closingTag (s : Source) (i : Nat) (cdata : Option String) : Option Found := do
  let g ← s.findChar (· = '>') (i + 1)
  let p := s.skip isSpace (i + 2)
  let exact : Option String :=
    match s[p]? with
    | some c =>
      if isLetter c then
        let e := s.skip isCloseNameChar (p + 1)
        if s.skip isSpace e = g then some (Text.lower (s.slice p e)) else none
      else none
    | none => none
  match exact, cdata with
  | some name, some c =>
    if name = c then pure ([.closeTag name], g + 1, none) else pure ([.text (s.slice i (g + 1))], g + 1, cdata)
  | some name, none => pure ([.closeTag name], g + 1, none)
  | none, some _ => pure ([.text (s.slice i (g + 1))], g + 1, cdata)
  | none, none =>
    match s[i + 2]? with
    | some c =>
      if isLetter c then
        let n := s.skip isNameChar (i + 3)
        pure ([.closeTag (Text.lower (s.slice (i + 2) n))], g + 1, none)
      else if c = '>' then pure ([], i + 3, none)
      else pure ([.aside (s.slice (i + 2) g)], g + 1, none)
    | none => pure ([.aside (s.slice (i + 2) g)], g + 1, none)

def comment (s : Source) (i : Nat) : Option Found := do
  let j ← s.findWhere (fun j => s.startsAt j ['-', '-'] && s[s.skip isSpace (j + 2)]? == some '>') (i + 4)
  pure ([.aside (s.slice (i + 4) j)], s.skip isSpace (j + 2) + 1, none)

def asideTo (s : Source) (start search : Nat) : Option Found := do
  let g ← s.findChar (· = '>') search
  pure ([.aside (s.slice start g)], g + 1, none)

def declaration (s : Source) (i : Nat) : Option Found :=
  if Text.lower (s.slice i (i + 9)) = "<!doctype" then asideTo s (i + 2) (i + 9)
  else asideTo s (i + 2) (i + 2)

/-- A numeric reference at `i` (which starts `&#`): its character and the next
position. It must end in a character that is not a digit of its base; a
semicolon there is consumed. -/
def numericReference (s : Source) (i : Nat) : Option (Char × Nat) := do
  let hex := s[i + 2]? == some 'x' || s[i + 2]? == some 'X'
  let start := if hex then i + 3 else i + 2
  let stop := s.skip (if hex then isHexDigit else (fun c => '0' ≤ c && c ≤ '9')) start
  if stop = start then none
  let t ← s[stop]?
  if isHexDigit t then none
  let digits := (s.extract start stop).toList
  let value := digits.foldl (fun acc c =>
    let d := if '0' ≤ c && c ≤ '9' then c.toNat - '0'.toNat
      else if 'a' ≤ c && c ≤ 'f' then c.toNat - 'a'.toNat + 10
      else c.toNat - 'A'.toNat + 10
    acc * (if hex then 16 else 10) + d) 0
  pure (numericValue value, if t = ';' then stop + 1 else stop)

/-- A named reference at `i` (which starts `&`): its text and the next position.
The name is a letter followed by letters, digits, `-` and `.`, and must be
followed by a character that is neither a letter nor a digit. -/
def namedReference (s : Source) (i : Nat) : Option (String × Nat) := do
  let c ← s[i + 1]?
  if !isLetter c then none
  let runEnd := s.skip (fun c => isAlnum c || c = '-' || c = '.') (i + 2)
  let stop ← if runEnd < s.size then some runEnd
    else (List.range (runEnd - (i + 2))).reverse.map (· + (i + 2))
      |>.find? (fun p => s[p]? == some '-' || s[p]? == some '.')
  let name := s.slice (i + 1) stop
  let value := match entityValue? name with
    | some ch => String.singleton ch
    | none => "&" ++ name
  pure (value, if s[stop]? == some ';' then stop + 1 else stop)

inductive Step where
  /-- Report events and go on from a position. -/
  | go (found : Found)
  /-- Report events and stop at a position: the first pass hands over to the
  final pass there, and the final pass ends, the rest being text. -/
  | stop (events : List Event) (at_ : Nat)

def closingOf (s : Source) (name : String) (i : Nat) : Option Nat :=
  s.findWhere (fun j =>
    s.startsAt j ['<', '/'] &&
      let p := s.skip isSpace (j + 2)
      let e := p + name.length
      Text.lower (s.slice p e) == name && s[s.skip isSpace e]? == some '>') i

def step (s : Source) (i : Nat) (final : Bool) (cdata : Option String) : Step :=
  match cdata with
  | some name =>
    match closingOf s name i with
    | none => .stop [] i
    | some j =>
      if i < j then .go ([.text (s.slice i j)], j, cdata)
      else match closingTag s i cdata with
        | some f => .go f
        | none => .stop [] i
  | none =>
    let j := (s.findChar (fun c => c = '<' || c = '&') i).getD s.size
    if i < j then .go ([.text (s.slice i j)], j, none)
    else if s[i]? == some '<' then
      let found : Option (Option Found) :=
        match s[i + 1]? with
        | some c =>
          if isLetter c then some (openingTag s i)
          else if c = '/' then some (closingTag s i none)
          else if s.startsAt i ['<', '!', '-', '-'] then some (comment s i)
          else if c = '?' then some (asideTo s (i + 2) (i + 2))
          else if c = '!' then some (declaration s i)
          else some (some ([.text "<"], i + 1, none))
        | none => none
      match found with
      | none => .stop [] i
      | some (some f) => .go f
      | some none =>
        if !final then .stop [] i
        else
          let k := match s.findChar (· = '>') (i + 1) with
            | some g => g + 1
            | none => (s.findChar (· = '<') (i + 1)).getD (i + 1)
          .go ([.text (s.slice i k)], k, none)
    else if s.startsAt i ['&', '#'] then
      match numericReference s i with
      | some (c, k) => .go ([.text (String.singleton c)], k, none)
      | none =>
        if (s.findChar (· = ';') i).isSome then .stop [.text "&#"] (i + 2) else .stop [] i
    else
      match namedReference s i with
      | some (t, k) => .go ([.text t], k, none)
      | none =>
        match s[i + 1]? with
        | some c =>
          if isLetter c || c = '#' then
            .stop [] (if final && s.size = i + 2 then i + 1 else i)
          else .go ([.text "&"], i + 1, none)
        | none => .stop [] i

def scanFrom (s : Source) : Nat → Nat → Bool → Option String → List Event → List Event
  | 0, _, _, _, acc => acc
  | fuel + 1, i, final, cdata, acc =>
    if i ≥ s.size then acc
    else match step s i final cdata with
      | .go (evs, k, cd) => scanFrom s fuel k final cd (evs.reverse ++ acc)
      | .stop evs k =>
        let acc := evs.reverse ++ acc
        if final then
          if k < s.size && cdata.isNone then .text (s.slice k s.size) :: acc else acc
        else scanFrom s fuel k true cdata acc

def scan (text : String) : List Event :=
  let s : Source := text.toList.toArray
  (scanFrom s (2 * s.size + 4) 0 false none []).reverse

end ColliderML.Markup
