import ColliderML.Error
import ColliderML.Text.Basic
import ColliderML.Text.Lower

/-!
Console markup: text in which tags in square brackets set styles, as in
`[bold]x[/bold]`. A tag starts with a lower-case letter, `#`, `/` or `@` and
runs to the first `]` without another `[` in between. Tags are dropped from the
text; a closing tag `[/name]` must match an open tag of that name, and `[/]`
closes the last one opened. A backslash before a tag makes it text (a pair of
backslashes stands for one), and `\[` outside tags stands for `[`. Only the
plain text matters here, since nothing is drawn in colour.
-/

namespace ColliderML.Console

def tagStart (c : Char) : Bool := ('a' ≤ c && c ≤ 'z') || c = '#' || c = '/' || c = '@'

def tagAt (cs : Array Char) (i : Nat) : Option (String × Nat) :=
  match cs[i]?, cs[i + 1]? with
  | some '[', some c =>
    if tagStart c then
      let rec go : Nat → Nat → Option Nat
        | 0, _ => none
        | fuel + 1, j =>
          match cs[j]? with
          | some ']' => some j
          | some '[' => none
          | some _ => go fuel (j + 1)
          | none => none
      match go (cs.size - i) (i + 2) with
      | some j => some (String.ofList (cs.extract (i + 1) j).toList, j + 1)
      | none => none
    else none
  | _, _ => none

inductive Piece where
  | plain (s : String)
  | tag (body : String) (position : Nat)

def pieces (cs : Array Char) : List Piece :=
  let rec go : Nat → Nat → Nat → List Piece → List Piece
    | 0, _, _, acc => acc.reverse
    | fuel + 1, i, plainFrom, acc =>
      if i ≥ cs.size then
        (if plainFrom < cs.size then .plain (String.ofList (cs.extract plainFrom cs.size).toList) :: acc
         else acc).reverse
      else
        -- a run of backslashes followed by a tag
        let bs := (cs.extract i cs.size).toList.takeWhile (· = '\\') |>.length
        match tagAt cs (i + bs) with
        | some (body, next) =>
          let before := if plainFrom < i then [.plain (String.ofList (cs.extract plainFrom i).toList)] else []
          let slashes := if bs / 2 > 0 then [.plain (String.ofList (List.replicate (bs / 2) '\\'))] else []
          let this : List Piece :=
            if bs % 2 = 1 then [.plain ("[" ++ body ++ "]")]
            else [.tag body (i + 2 * (bs / 2))]
          go fuel next next ((before ++ slashes ++ this).reverse ++ acc)
        | none => go fuel (i + max bs 1) plainFrom acc
  go (cs.size + 1) 0 0 []

def plainText (markup : String) : Outcome String := do
  if !markup.toList.contains '[' then return markup
  let (out, _) ← (pieces markup.toList.toArray).foldlM (fun (acc : String × List String) p =>
    let (out, stack) := acc
    match p with
    | .plain s => pure (out ++ Text.replace s "\\[" "[", stack)
    | .tag body position =>
      let name := (Text.splitOn body "=").headD body
      if Text.startsWith name "/" then
        let target := Text.lower (Text.strip (String.ofList (name.toList.drop 1)))
        if target.isEmpty then
          match stack with
          | _ :: rest => pure (out, rest)
          | [] => .error (.other .badMarkup
              ("closing tag '[/]' at position " ++ toString position ++ " has nothing to close"))
        else if stack.contains target then pure (out, stack.erase target)
        else .error (.unmatchedClosing ("[" ++ body ++ "]") position)
      else pure (out, Text.lower (Text.strip name) :: stack)) ("", [])
  pure out

end ColliderML.Console
