import ColliderML.Command.Observables
import ColliderML.Command.Cuts
import ColliderML.Command.Representations
import ColliderML.Observable.Read
import ColliderML.Cut.Read
import ColliderML.Representation.Set
import ColliderML.Datum.Equality

/-!
# Commands that read event data

Reading observables, cuts and sets of observables, the momenta of a branch,
and the matching of jet constituents, on event data given with the request.
-/

namespace ColliderML

namespace Command

open Request

def eventsOf (req : Datum) : Outcome Events := Events.decode (opt req "events" (.dict []))

def describeArray (name : String) (t : Tensor) : Datum :=
  let parts := Text.splitOn t.typeText " * "
  .dict [("name", .str name), ("value", t.toDatum), ("type", .str t.typeText),
    ("shape", Datum.ofStrings parts.dropLast), ("dtype", .str (parts.getLast?.getD "")),
    ("repr", .str (name ++ ": " ++ t.typeText))]

def unreadValue : Tensor := { dtype := .float64, shape := [0], data := #[] }

def requestedObservable (table : AliasTable) (req : Datum) : Outcome (Option Observable) := do
  match req.field? "class" with
  | some cls =>
    let kind ← kindOf table cls
    let args ← objectArgs (← needRecord req "args")
    pure (some (← Observable.construct kind args))
  | none => parseObservable table (opt req "name" .none) (keywordArgs req)

def readObservableEvents (table : AliasTable) (req : Datum) : Outcome Datum := do
  let ev ← eventsOf req
  match ← requestedObservable table req with
  | none => pure (.dict [("value", .none)])
  | some o =>
    let doRead := match req.field? "read" with
      | some (.bool false) => false
      | _ => true
    let value ← if doRead then o.read ev else pure unreadValue
    pure (describeArray o.name value)

def readCutEvents (table : AliasTable) (req : Datum) : Reply :=
  let read : Outcome Selection := do
    let c ← parseCut table (← need req "expression")
    c.read (← eventsOf req)
  match read with
  | .error e => .failure e
  | .ok sel =>
    .record [("value", .data sel.passed.toDatum),
      ("type", if sel.described then .data (.str sel.passed.typeText)
        else .failure (.noMember "numpy.ndarray" "type"))]

def readSetEvents (table : AliasTable) (req : Datum) : Outcome Datum := do
  let items ← needList req "observables"
  let args ← items.mapM (observableArg table)
  let s : ObservableSet := ⟨← args.mapM (memberOf table)⟩
  let ev ← eventsOf req
  let values ← s.read ev
  pure (.dict [("names", Datum.ofStrings (← s.names)), ("values", values.toDatum)])

def branchMomenta (req : Datum) : Outcome Datum := do
  let ev ← eventsOf req
  let branch ← needText req "branch"
  let withId := match req.field? "with_id" with
    | some (.bool true) => true
    | _ => false
  let m ← Momenta.ofBranch ev branch withId
  pure (.dict [("array", m.toDatum), ("px", m.px.toDatum), ("py", m.py.toDatum),
    ("pz", m.pz.toDatum), ("e", m.energy.toDatum), ("m", m.mass.toDatum), ("mass", m.mass.toDatum)])

def itemsOf (d : Datum) : List Datum := (d.list?).getD []

def componentOf (r : Datum) (k : String) : Outcome Datum :=
  match r.field? k with
  | some v => .ok v
  | none => .error (.noMember r.kindName k)

def gather (records : List Datum) (found : List (List (List Nat))) (k : String) : Outcome Datum := do
  let evs ← (records.zip found).mapM (fun e => do
    let rs := itemsOf e.1
    let jets ← e.2.mapM (fun jet => do
      let vs ← jet.mapM (fun i => do
        match rs[i]? with
        | some r => componentOf r k
        | none => throw .listIndex)
      pure (Datum.list vs))
    pure (Datum.list jets))
  pure (.list evs)

def matchFlow (req : Datum) : Outcome Datum := do
  let ids := (itemsOf (opt req "eflow" (.list []))).map itemsOf
  let refs := (itemsOf (opt req "refs" (.list []))).map (fun ev => (itemsOf ev).map itemsOf)
  let found := Constituents.matchAll Datum.pyEq ids refs
  let base := [("indices", Constituents.matchesToDatum found)]
  match req.field? "records" with
  | none => pure (.dict base)
  | some recs =>
    let records := itemsOf recs
    let comps ← ["pt", "eta", "phi", "mass"].mapM (gather records found)
    pure (.dict (base ++ [("momenta", .list comps)]))

end Command

end ColliderML
