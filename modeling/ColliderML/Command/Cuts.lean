import ColliderML.Command.Observables
import ColliderML.Cut.Basic

/-!
Commands on cut expressions, and sessions: a sequence of steps that register
aliases and read observables and cuts under the table the steps build.
-/

namespace ColliderML

namespace Command

open Request

def parseCut (table : AliasTable) (d : Datum) : Outcome Cut :=
  match d with
  | .str s => Cut.parse table s
  | d => .error (.noMember d.kindName "strip")

def describeCut (table : AliasTable) (expression : Datum) : Outcome Datum := do
  let c ← parseCut table expression
  pure c.describe

def readCut (table : AliasTable) (req : Datum) : Reply :=
  Reply.ofOutcome (do describeCut table (← need req "expression"))

def sessionStep (table : AliasTable) (step : Datum) : Outcome Reply × AliasTable :=
  let registration := fun (cls : Datum) =>
    match (do
      let kind ← kindOf table cls
      let names ← aliasNames (opt step "aliases" (.list []))
      pure (table.registerAll names kind)) with
    | .ok t => (.ok (Reply.value (.ok .none)), t)
    | .error e => (.ok (.failure e), table)
  match step.field? "register", step.field? "with_aliases" with
  | some cls, _ => registration cls
  | none, some cls => registration cls
  | none, none =>
    if step.hasField "parse" then
      (.ok (readObservable table (.dict [("name", opt step "parse" .none), ("kwargs", opt step "kwargs" (.dict []))])), table)
    else if step.hasField "get" then
      (.ok (Reply.value (lookupKind table (opt step "get" .none))), table)
    else if step.hasField "cut" then
      (.ok (Reply.value (describeCut table (opt step "cut" .none))), table)
    else (.error (.badRequest "unknown session step"), table)

def runSession (req : Datum) : Outcome Reply := do
  let steps ← needList req "steps"
  let (replies, _) ← steps.foldlM (fun (acc : List Reply × AliasTable) step => do
    let (r, t) := sessionStep acc.2 step
    let r ← r
    pure (acc.1 ++ [r], t)) ([], AliasTable.shipped)
  pure (.record [("steps", .list replies)])

end Command

end ColliderML
