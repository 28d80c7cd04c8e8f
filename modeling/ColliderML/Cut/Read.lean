import ColliderML.Cut.Basic
import ColliderML.Cut.Pattern
import ColliderML.Cut.Evaluate
import ColliderML.Observable.Read

/-!
# Reading a cut from event data

Reading a cut reads every observable it names, in order, and then evaluates
each single cut as a formula: its text with every occurrence of each of its
names replaced, one name after the other, by a lookup of that observable's
values. All observables must have arrays of one shape.

The rewritten expression is then evaluated with each single cut, in order,
replaced by a lookup of its result: the cut is found as a pattern between word
boundaries, or, when it is not found so, between blank characters (which the
replacement takes along).

An array of more than one axis is reduced over its second axis: by "any" for a
cut marked so, which leaves a plain array without a type description, and by
"all" otherwise. A vetoing cut then inverts the result.
-/

namespace ColliderML

/-- The events that pass a cut, and whether the array still describes its type. -/
structure Selection where
  passed : Tensor
  described : Bool := true
  deriving Inhabited

namespace Cut

def readObservables (ev : Events) (c : Cut) : Outcome (List (String × ScopeObservable)) :=
  c.observables.mapM (fun entry =>
    match entry.2 with
    | none => .error (.noMember "NoneType" "read")
    | some o => do
      let value ← Observable.read ev o
      pure (entry.1, { className := o.kind.className, value }))

def valueLookup (name : String) : String := "observables_dict['" ++ name ++ "'].value"

def resultLookup (cut : String) : String := "cuts_results['" ++ cut ++ "']"

def singleFormula (cut : String) (names : List String) : String :=
  names.foldl (fun text n => Text.replace text n (valueLookup n)) cut

def evaluateCuts (observables : List (String × ScopeObservable)) :
    List (String × List String) → List (String × FormulaValue) → Outcome (List (String × FormulaValue))
  | [], acc => .ok acc
  | (cut, names) :: rest, acc => do
    let scope : FormulaScope := { observables, results := acc }
    let v ← scope.evaluate (singleFormula cut names)
    evaluateCuts observables rest (assocSet acc cut v)

def substituteCut (expr : String) (cut : String) : String :=
  let body := Text.replace cut "." "\\."
  let atWords := Pattern.ofText ("\\b" ++ body ++ "\\b")
  let pattern := if atWords.found expr then atWords else Pattern.ofText ("\\s" ++ body ++ "\\s")
  pattern.substitute expr (resultLookup cut)

def read (ev : Events) (c : Cut) : Outcome Selection := do
  let observables ← readObservables ev c
  let results ← evaluateCuts observables c.cuts []
  let shapes := (observables.map (fun o => Observable.lengthsOf o.2.value)).eraseDups
  if shapes.length != 1 then throw .rejected
  let expr := results.foldl (fun e r => substituteCut e r.1) c.expr
  let scope : FormulaScope := { observables, results }
  let value ← match ← scope.evaluate expr with
    | .array t => pure t
    | other => throw (.noMember (other.typeName scope) "ndim")
  let reduced ←
    if value.ndim > 1 then
      if c.isAny then do pure { passed := ← value.anyAxis1, described := false }
      else do pure { passed := ← value.allAxis1 }
    else pure { passed := value }
  if c.isVeto then pure { reduced with passed := ← reduced.passed.invert } else pure reduced

end Cut

end ColliderML
