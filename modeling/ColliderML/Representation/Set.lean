import ColliderML.Observable.Arg
import ColliderML.Observable.Build
import ColliderML.Observable.Read

/-!
Sets of observables: the values an event is described by, in order.

The configuration numbers the members from zero and gives each its class name
and configuration. A set is rebuilt from it by looking each class name up in
the alias table and building that kind again from the configuration.

Reading a set from event data reads each member in turn, and each gives one
block of columns: an array of two axes must have one column, and an array of
three axes with one entry along both inner axes gives its first entry there. A
member of another shape gives again the block of the member before it, and
fails when there is none. The blocks are then joined along the second axis.
-/

namespace ColliderML

structure ObservableSet where
  members : List ObservableArg
  deriving Inhabited

namespace ObservableSet

def names (s : ObservableSet) : Outcome (List String) :=
  s.members.mapM ObservableArg.name

def config (s : ObservableSet) : Outcome Datum := do
  let entries ← (List.range s.members.length).zip s.members |>.mapM (fun (i, m) => do
    let c ← m.classConfig
    pure (toString i, c))
  pure (.dict [("observable_configs", .dict entries)])

def rebuildMember (table : AliasTable) (m : ObservableArg) : Outcome ObservableArg := do
  let c ← m.config
  match table.find? m.className with
  | some kind => do
    let o ← Observable.ofConfig kind c.fields
    pure (.observable o)
  | none => .error (.missingKey (quoteText m.className))

def rebuild (table : AliasTable) (s : ObservableSet) : Outcome ObservableSet := do
  let _ ← s.config
  let members ← s.members.mapM (rebuildMember table)
  pure ⟨members⟩

def block (ev : Events) (before : Option Tensor) (m : ObservableArg) : Outcome (Option Tensor) := do
  match m with
  | .observable o =>
    let v ← Observable.read ev o
    match Observable.lengthsOf v with
    | [_, last] => if last != "1" then throw .rejected else pure (some v)
    | [_, "1", "1"] => pure (some (← v.index [.all, .all, .pos 0]))
    | _ => pure before
  | .object p => throw (.noMember p.kind.name "read")
  | .value d => throw (.noMember d.kindName "read")

def read (ev : Events) (s : ObservableSet) : Outcome Tensor := do
  let (_, blocks) ← s.members.foldlM (fun (acc : Option Tensor × List Tensor) m => do
    match ← block ev acc.1 m with
    | some b => pure (some b, acc.2 ++ [b])
    | none => throw (.unboundParameter "value")) (none, [])
  Tensor.concat1 blocks

end ObservableSet

end ColliderML
