import ColliderML.Command.PhysicsObjects
import ColliderML.Observable.Build
import ColliderML.Observable.Arg

/-!
Commands on observables: reading names under an alias table, building from
arguments, names or configurations, comparing, looking up aliases, and sessions
that register aliases before reading.
-/

namespace ColliderML

namespace Command

open Request

def kindOf (table : AliasTable) (d : Datum) : Outcome ObservableKind :=
  match d with
  | .str "Observable" => .ok .generic
  | .str s =>
    match table.find? s with
    | some k => .ok k
    | none => .error (.missingKey (quoteText s))
  | d => .error (.missingKey d.literal)

def keywordArgs (req : Datum) : List (String × ObjectArg) :=
  (opt req "kwargs" (.dict [])).fields.map (fun kv => (kv.1, .value kv.2))

def parseObservable (table : AliasTable) (name : Datum) (kwargs : List (String × ObjectArg)) :
    Outcome (Option Observable) :=
  match name with
  | .none => .ok none
  | .str s => Observable.parse table s kwargs
  | d => .error (.noMember d.kindName "split")

def describeOptional : Option Observable → Datum
  | some o => o.describe
  | none => .none

/-- An argument in observable form: a text or nothing as it is, a record with
"parse" for the observable read from that name, with "object" for a physics object. -/
def observableArg (table : AliasTable) (d : Datum) : Outcome ObservableArg :=
  match d with
  | .dict fs =>
    match fs.lookup "parse", fs.lookup "object" with
    | some n, _ => do
      let kw := ((fs.lookup "kwargs").getD (.dict [])).fields.map (fun kv => (kv.1, ObjectArg.value kv.2))
      match (← parseObservable table n kw) with
      | some o => pure (.observable o)
      | none => pure (.value .none)
    | none, some n => do let o ← objectOfName n; pure (.object o)
    | none, none => .ok (.value d)
  | d => .ok (.value d)

def readObservable (table : AliasTable) (req : Datum) : Reply :=
  Reply.value do
    let o ← parseObservable table (opt req "name" .none) (keywordArgs req)
    pure (describeOptional o)

def newObservable (table : AliasTable) (req : Datum) : Reply :=
  Reply.value do
    let kind ← kindOf table (← need req "class")
    let args ← objectArgs (← needRecord req "args")
    let o ← Observable.construct kind args
    pure o.describe

def observableOfNameAs (kind : ObservableKind) (name : Datum) (kwargs : List (String × ObjectArg)) :
    Outcome Observable :=
  match name with
  | .str s => Observable.ofNameAs kind s kwargs
  | d => .error (.noMember d.kindName "split")

def observableFromName (table : AliasTable) (req : Datum) : Reply :=
  Reply.value do
    let kind ← kindOf table (← need req "class")
    let o ← observableOfNameAs kind (← need req "name") (keywordArgs req)
    pure o.describe

def observableFromConfig (table : AliasTable) (req : Datum) : Reply :=
  Reply.value do
    let kind ← kindOf table (← need req "class")
    let o ← Observable.ofConfig kind (← needRecord req "config")
    pure o.describe

def compareObservable (a : Option Observable) (b : ObservableArg) : Outcome Bool :=
  match a, b with
  | some o, .value (.str s) => do
    let other ← Observable.ofNameAs o.kind s []
    Observable.equals o other
  | some o, .observable p => Observable.equals o p
  | some _, .object p => .error (.noMember p.kind.name "physics_object")
  | some _, .value d => .error (.noMember d.kindName "physics_object")
  | none, .value .none => .ok true
  | none, .observable _ => .error (.noMember "NoneType" "physics_object")
  | none, .object _ => .error (.noMember "NoneType" "lower")
  | none, .value _ => .ok false

def compareObservables (table : AliasTable) (req : Datum) : Reply :=
  Reply.value do
    let a ← parseObservable table (opt req "a" .none) (keywordArgs req)
    let b ← observableArg table (← need req "b")
    let r ← compareObservable a b
    pure (.bool r)

def lookupKind (table : AliasTable) (id : Datum) : Outcome Datum :=
  match id with
  | .none => .ok .none
  | .str "None" => .ok .none
  | .str s => .ok (match table.find? s with
    | some k => .str k.className
    | none => .none)
  | .list _ => .error (.unhashable "list")
  | .dict _ => .error (.unhashable "dict")
  | _ => .ok .none

def observableKindNamed (table : AliasTable) (req : Datum) : Reply :=
  Reply.value (lookupKind table (opt req "identifier" .none))

def aliasNames (d : Datum) : Outcome (List String) :=
  match d with
  | .list items => items.mapM (fun i => match i with
    | .str s => .ok s
    | _ => .error (.badRequest "aliases must be texts"))
  | _ => .error (.badRequest "aliases must be a list")

end Command

end ColliderML
