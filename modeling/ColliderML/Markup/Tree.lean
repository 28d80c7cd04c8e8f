import ColliderML.Markup.Scan

/-!
The tree of a markup document, built from its events without any knowledge of
which tags may contain which: a tag is opened inside the innermost open one,
and a closing tag closes the innermost open tag of its name together with all
opened after it, or is ignored when none of that name is open.

Void tags (`br`, `hr`, `input`, `meta`, `link`, `img` and the like) close as
they open, and each such closing is remembered: a later closing tag of that
name, or a tag of that name written closed at once, spends one remembered
closing instead of closing anything.

Consecutive text becomes one string; a string of ASCII blanks only becomes a
single line feed if it holds one, else a single space (except inside `pre` and
`textarea`). Strings inside `script`, `style`, `template`, `rt` and `rp`, and
asides, are kept in the tree but are not part of any element's text.
-/

namespace ColliderML.Markup

inductive Node where
  | element (name : String) (children : List Node)
  /-- A string, and whether it counts as text. -/
  | string (s : String) (isText : Bool)
  deriving Inhabited

def voidTags : List String :=
  ["area", "base", "br", "col", "embed", "hr", "img", "input", "keygen", "link", "menuitem", "meta",
   "param", "source", "track", "wbr", "basefont", "bgsound", "command", "frame", "image", "isindex",
   "nextid", "spacer"]

def foreignStringTags : List String := ["rt", "rp", "style", "script", "template"]

def blankKeepingTags : List String := ["pre", "textarea"]

/-- An open element: its name and its children so far, last first. -/
structure Frame where
  name : String
  children : List Node

structure Builder where
  /-- Open elements, innermost first. -/
  open_ : List Frame := []
  /-- The document's top-level nodes so far, last first. -/
  top : List Node := []
  /-- Text not yet made a string, last piece first. -/
  pending : List String := []
  /-- Void tags closed as they opened and not yet spent. -/
  closedVoid : List String := []

namespace Builder

def add (b : Builder) (n : Node) : Builder :=
  match b.open_ with
  | f :: rest => { b with open_ := { f with children := n :: f.children } :: rest }
  | [] => { b with top := n :: b.top }

def asciiBlank (s : String) : Bool :=
  s.toList.all (fun c => c = ' ' || c = '\n' || c = '\t' || c = '\x0c' || c = '\r')

def flush (b : Builder) (aside : Bool) : Builder :=
  match b.pending with
  | [] => b
  | parts =>
    let s := String.join parts.reverse
    let names := b.open_.map (·.name)
    let s :=
      if asciiBlank s && !names.any (blankKeepingTags.contains ·) then
        (if s.toList.contains '\n' then "\n" else " ")
      else s
    let isText := !aside && !names.any (foreignStringTags.contains ·)
    ({ b with pending := [] } : Builder).add (.string s isText)

def push (b : Builder) (name : String) : Builder :=
  { b with open_ := ⟨name, []⟩ :: b.open_ }

def pop (b : Builder) : Builder :=
  match b.open_ with
  | f :: rest => ({ b with open_ := rest } : Builder).add (.element f.name f.children.reverse)
  | [] => b

def popTo (b : Builder) (name : String) : Builder :=
  let rec go : Nat → Builder → Builder
    | 0, b => b
    | fuel + 1, b =>
      match b.open_ with
      | f :: _ => if f.name = name then b.pop else go fuel b.pop
      | [] => b
  if b.open_.any (·.name = name) then go b.open_.length b else b

def close (b : Builder) (name : String) : Builder :=
  if b.closedVoid.contains name then { b with closedVoid := b.closedVoid.erase name }
  else (b.flush false).popTo name

def feed (b : Builder) : Event → Builder
  | .text s => { b with pending := s :: b.pending }
  | .aside s => ({ b.flush false with pending := [s] } : Builder).flush true
  | .openTag name =>
    let b := (b.flush false).push name
    if voidTags.contains name then { b.popTo name with closedVoid := b.closedVoid ++ [name] } else b
  | .emptyTag name => ((b.flush false).push name).close name
  | .closeTag name => b.close name

def finish (b : Builder) : List Node :=
  let rec go : Nat → Builder → Builder
    | 0, b => b
    | fuel + 1, b => if b.open_.isEmpty then b else go fuel b.pop
  let b := b.flush false
  (go b.open_.length b).top.reverse

end Builder

def parse (text : String) : List Node :=
  ((scan text).foldl Builder.feed {}).finish

mutual
def Node.text : Node → String
  | .element _ children => textOf children
  | .string s isText => if isText then s else ""

def textOf : List Node → String
  | [] => ""
  | n :: rest => n.text ++ textOf rest
end

mutual
def findAll (name : String) : List Node → List Node
  | [] => []
  | n :: rest => findIn name n ++ findAll name rest

def findIn (name : String) : Node → List Node
  | .element n children =>
    (if n = name then [.element n children] else []) ++ findAll name children
  | .string _ _ => []
end

def Node.findAll (name : String) : Node → List Node
  | .element _ children => Markup.findAll name children
  | .string _ _ => []

end ColliderML.Markup
