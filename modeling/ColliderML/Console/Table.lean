import ColliderML.Console.Markup

/-!
Tables drawn with box characters, as a console prints them.

Each column is as wide as its widest cell (header included) plus one space of
padding on each side. The header row is framed with heavy lines and the body
with light ones: a heavy top edge, the header row between heavy verticals, a
mixed rule under it (drawn even when there are no rows), the rows between light
verticals, and a light bottom edge. A title above and a caption below are
centred over the table's width, wrapped at spaces when longer; each line is
padded with spaces to the full width. Every cell, the title and the caption are
console markup, of which only the plain text is drawn.
-/

namespace ColliderML.Console

/-- How a cell's text is placed in its column. -/
inductive Justify where
  | left
  | center
  | right
  deriving Inhabited, DecidableEq

/-- A column: its header and how its cells are placed. -/
structure Column where
  header : String
  justify : Justify := .left

structure Table where
  title : String := ""
  caption : String := ""
  columns : List Column
  rows : List (List String)

def spaces (n : Nat) : String := String.ofList (List.replicate n ' ')

def place (j : Justify) (w : Nat) (s : String) : String :=
  let gap := w - s.length
  match j with
  | .left => s ++ spaces gap
  | .right => spaces gap ++ s
  | .center => spaces (gap / 2) ++ s ++ spaces (gap - gap / 2)

def wrapWords (cs : List Char) : List (List Char) :=
  let rec go : Nat → List Char → List (List Char)
    | 0, _ => []
    | _ + 1, [] => []
    | fuel + 1, cs =>
      let lead := cs.takeWhile Text.isBlank
      let rest := cs.dropWhile Text.isBlank
      let body := rest.takeWhile (fun c => !Text.isBlank c)
      let rest := rest.dropWhile (fun c => !Text.isBlank c)
      let trail := rest.takeWhile Text.isBlank
      let rest := rest.dropWhile Text.isBlank
      if body.isEmpty then [lead ++ trail] else (lead ++ body ++ trail) :: go fuel rest
  go (cs.length + 1) cs

def dropEndBlanks (cs : List Char) : List Char := (cs.reverse.dropWhile Text.isBlank).reverse

/-- Breaks a line into lines of at most a width, at word starts; a word longer
than the width is cut into pieces of the width. -/
def wrapLine (width : Nat) (cs : List Char) : List (List Char) :=
  let step := fun (acc : List (List Char) × List Char) (word : List Char) =>
    let (done, line) := acc
    let wordLength := (dropEndBlanks word).length
    if line.length + wordLength ≤ width || width = 0 then (done, line ++ word)
    else if wordLength > width then
      let pieces := (List.range ((word.length + width - 1) / width)).map (fun k => (word.drop (k * width)).take width)
      match pieces.reverse with
      | last :: earlier =>
        let full := earlier.reverse
        let done := if line.isEmpty then done else done ++ [line]
        (done ++ full, last)
      | [] => (done, line)
    else if line.isEmpty then (done, word)
    else (done ++ [line], word)
  let (done, line) := (wrapWords cs).foldl step ([], [])
  done ++ [line]

def centred (width : Nat) (text : String) : List String :=
  (Text.splitOn text "\n").flatMap (fun line =>
    (wrapLine width line.toList).map (fun l =>
      let l := (dropEndBlanks l).take width
      place .center width (String.ofList l)))

def rule (widths : List Nat) (left fill joint right : Char) : String :=
  String.singleton left ++ String.intercalate (String.singleton joint)
    (widths.map (fun w => String.ofList (List.replicate w fill))) ++ String.singleton right

def rowLine (widths : List Nat) (columns : List Column) (cells : List String) (bar : Char) : String :=
  let placed := (widths.zip (columns.zip cells)).map (fun (w, c, s) => " " ++ place c.justify (w - 2) s ++ " ")
  String.singleton bar ++ String.intercalate (String.singleton bar) placed ++ String.singleton bar

def Table.render (t : Table) : Outcome String := do
  let headers ← t.columns.mapM (fun c => plainText c.header)
  let rows ← t.rows.mapM (fun r => r.mapM plainText)
  let title ← plainText t.title
  let caption ← plainText t.caption
  let widths := (List.range t.columns.length).map (fun i =>
    ((headers :: rows).map (fun r => (r.getD i "").length)).foldl max 0 + 2)
  let tableWidth := widths.foldl (· + ·) 0 + t.columns.length + 1
  let lines :=
    (if title.isEmpty then [] else centred tableWidth title) ++
    [rule widths '┏' '━' '┳' '┓', rowLine widths t.columns headers '┃', rule widths '┡' '━' '╇' '┩'] ++
    rows.map (fun r => rowLine widths t.columns r '│') ++
    [rule widths '└' '─' '┴' '┘'] ++
    (if caption.isEmpty then [] else centred tableWidth caption)
  pure (String.join (lines.map (· ++ "\n")))

end ColliderML.Console
