import ColliderML.Text.Basic
import ColliderML.Error

/-!
Files below a working directory, and the paths that name them.

A path is a list of names. Written as text, a relative path joins its names
with `/` (the empty path is `.`), and a resolved one starts from the working
directory's own name. Reading a path that names nothing, or a directory, fails
with the path's text as given. Text files are read with every line end
(`\r\n`, `\r` or `\n`) read as `\n`.

Listing matches names against a pattern in which `*` stands for any run of
characters, `?` for one character and `[…]` for one of a set (`[!…]` for one
not in it); the names are listed in order.
-/

namespace ColliderML

structure Location where
  parts : List String
  /-- Whether the path was made absolute, so that its text starts from the working directory. -/
  resolved : Bool := false
  deriving Inhabited, BEq

namespace Location

def components (s : String) : List String :=
  (Text.splitOn s "/").filter (fun p => p != "" && p != ".")

def ofText (s : String) : Location := ⟨components s, false⟩

def child (l : Location) (name : String) : Location := { l with parts := l.parts ++ components name }

def resolve (l : Location) : Location := { l with resolved := true }

def name (l : Location) : String := l.parts.getLast?.getD ""

def text (root : String) (l : Location) : String :=
  if l.resolved then String.join (root :: l.parts.map ("/" ++ ·))
  else if l.parts.isEmpty then "." else "/".intercalate l.parts

def relativeText (l : Location) : String :=
  if l.parts.isEmpty then "." else "/".intercalate l.parts

end Location

def inCharSet (c : Char) : List Char → Bool
  | a :: '-' :: b :: tail => (a ≤ c && c ≤ b) || inCharSet c tail
  | a :: tail => a == c || inCharSet c tail
  | [] => false

/-- A listing set after its `[`: whether it is negated, its members, and the
pattern after its `]`; none when it is not closed, so that `[` is literal. -/
def charSet (ps : List Char) : Option (Bool × List Char × List Char) :=
  let (negated, body) := match ps with
    | '!' :: more => (true, more)
    | more => (false, more)
  let (first, afterFirst) := match body with
    | ']' :: more => ([']'], more)
    | more => ([], more)
  match afterFirst.dropWhile (· != ']') with
  | ']' :: after => some (negated, first ++ afterFirst.takeWhile (· != ']'), after)
  | _ => none

def globMatchFuel : Nat → List Char → List Char → Bool
  | 0, _, _ => false
  | _ + 1, [], cs => cs.isEmpty
  | fuel + 1, '*' :: ps, cs =>
    globMatchFuel fuel ps cs ||
      (match cs with
        | _ :: rest => globMatchFuel fuel ('*' :: ps) rest
        | [] => false)
  | fuel + 1, '?' :: ps, cs =>
    match cs with
    | _ :: rest => globMatchFuel fuel ps rest
    | [] => false
  | fuel + 1, '[' :: ps, cs =>
    match charSet ps, cs with
    | some (negated, members, after), c :: more => (inCharSet c members != negated) && globMatchFuel fuel after more
    | some _, [] => false
    | none, c :: more => c == '[' && globMatchFuel fuel ps more
    | none, [] => false
  | fuel + 1, p :: ps, cs =>
    match cs with
    | c :: rest => p == c && globMatchFuel fuel ps rest
    | [] => false

def globMatch (pattern name : List Char) : Bool :=
  globMatchFuel (pattern.length + name.length + 1) pattern name

/-- Files with their contents, and directories, below the working directory. -/
structure FileTree where
  files : List (List String × String)
  dirs : List (List String)
  deriving Inhabited

namespace FileTree

def isFile (t : FileTree) (p : Location) : Bool := t.files.any (·.1 == p.parts)

def isDir (t : FileTree) (p : Location) : Bool :=
  p.parts.isEmpty || t.dirs.any (fun d => p.parts.isPrefixOf d) ||
    t.files.any (fun f => p.parts.isPrefixOf f.1 && f.1.length > p.parts.length)

def holds (t : FileTree) (p : Location) : Bool := t.isFile p || t.isDir p

def entries (t : FileTree) (p : Location) : List String :=
  let n := p.parts.length
  let below := (t.files.map (·.1) ++ t.dirs).filter (fun q => p.parts.isPrefixOf q && q.length > n)
  let names := below.filterMap (fun q => q[n]?)
  (names.foldl (fun acc x => if acc.contains x then acc else acc ++ [x]) []).mergeSort (fun a b => a ≤ b)

def glob (t : FileTree) (p : Location) (pattern : String) : List Location :=
  if t.isDir p then
    (t.entries p).filter (fun n => globMatch pattern.toList n.toList) |>.map (p.child ·)
  else []

def normalizeLines (s : String) : String :=
  Text.replace (Text.replace s "\r\n" "\n") "\r" "\n"

def read (t : FileTree) (p : Location) (shown : String) : Outcome String :=
  match t.files.find? (·.1 == p.parts) with
  | some (_, content) => .ok (normalizeLines content)
  | none => if t.isDir p then .error (.directoryNotFile shown) else .error (.noSuchFile shown)

def textLines (s : String) : List String :=
  match (Text.splitOn s "\n").reverse with
  | "" :: rest => rest.reverse.map (· ++ "\n")
  | last :: rest => rest.reverse.map (· ++ "\n") ++ [last]
  | [] => []

end FileTree

end ColliderML
