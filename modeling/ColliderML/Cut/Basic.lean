import ColliderML.Cut.Scan
import ColliderML.Observable.Build

/-!
Cut expressions: conditions on observables, such as `jet0.pt > 30 and jet1.pt > 20`.

Reading an expression: the text is stripped; a leading `veto` marks a vetoing
cut and a leading `any` (after it) a cut that any entry may pass, and each word
is then removed wherever it occurs. The connectives `and` and `or` become `&`
and `|` wherever they occur, also inside names. The text is split into single
cuts at `&` and then `|`, each stripped and cleared of parentheses. A single cut
with one observable name and text on both sides of every occurrence, such as
`10 < jet0.pt < 20`, becomes the two cuts `10 < jet0.pt` and `jet0.pt < 20`,
and the expression is rewritten to join them. Each single cut keeps the names
found in it, and each name is read as an observable.
-/

namespace ColliderML

structure Cut where
  /-- The text as given. -/
  expression : String
  isVeto : Bool
  isAny : Bool
  /-- The rewritten expression that joins the single cuts. -/
  expr : String
  /-- The single cuts and the observable names in each, in order of first appearance. -/
  cuts : List (String × List String)
  /-- Each observable name and its observable (none for the name "None"), in order. -/
  observables : List (String × Option Observable)
  deriving Inhabited

namespace Cut

def dropMarker (expr : String) (word : String) : Bool × String :=
  if Text.startsWith expr word then (true, Text.strip (Text.replace expr word ""))
  else (false, expr)

def singleCuts (expr : String) : List String :=
  let pieces := (Text.splitOn expr "&").flatMap (fun c => Text.splitOn (Text.strip c) "|")
  pieces.map (fun c => Text.replace (Text.replace (Text.strip c) "(" "") ")" "")

def addCut (acc : String × List (String × List String)) (cut : String) :
    String × List (String × List String) :=
  let (expr, dict) := acc
  match CutScan.names cut with
  | [obs] =>
    let parts := Text.splitOn cut obs
    if parts.any (· == "") then (expr, assocSet dict cut [obs])
    else
      let first := parts.headD "" ++ obs
      let second := obs ++ (parts.drop 1).headD ""
      let dict := assocSet (assocSet dict first [obs]) second [obs]
      (Text.replace expr cut ("( " ++ first ++ " & " ++ second ++ " )"), dict)
  | all => (expr, assocSet dict cut all)

def parse (table : AliasTable) (expression : String) : Outcome Cut := do
  let expr := Text.strip expression
  let (isVeto, expr) := dropMarker expr "veto"
  let (isAny, expr) := dropMarker expr "any"
  let expr := Text.replace (Text.replace expr "and" "&") "or" "|"
  let (expr, cuts) := (singleCuts expr).foldl addCut (expr, [])
  let names := cuts.flatMap (·.2)
  let observables ← names.foldlM (fun (acc : List (String × Option Observable)) n => do
    let o ← Observable.parse table n []
    pure (assocSet acc n o)) []
  pure { expression, isVeto, isAny, expr, cuts, observables }

def describe (c : Cut) : Datum :=
  .dict [("expression", .str c.expression), ("is_veto", .bool c.isVeto), ("is_any", .bool c.isAny),
    ("expr", .str c.expr),
    ("cuts", .list (c.cuts.map (fun kv => .list [.str kv.1, Datum.ofStrings kv.2]))),
    ("observables", .list (c.observables.map (fun kv => .list [.str kv.1,
      match kv.2 with
      | some o => o.describe
      | none => .none])))]

end Cut

end ColliderML
