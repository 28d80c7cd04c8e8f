import ColliderML.Observable.Basic
import ColliderML.Observable.Alias

/-!
Making observables from arguments, from names and from configurations.

A name is an object name and a class name joined by a dot (`jet0.pt`); the
class name is the text after the last dot, and the object name, if any, what
comes before it. `parse` looks the class name up in an alias table; a class
name that is not there but reads `tau` and one digit (two digits), in any
letter case, names an n-subjettiness τ_N (a ratio τ_M/τ_N) whose counts are
those digits. Keyword arguments given with a name are passed to the kind's
constructor, except that the angular distance takes none and the τ kinds take
only their counts.
-/

namespace ColliderML

namespace Observable

def countsOf (kind : ObservableKind) (get : String → Option ObjectArg) : Outcome SubjetCounts := do
  let value := fun (k : String) =>
    match get k with
    | some (.value d) => .ok d
    | some a => .error (.badRequest ("unsupported count " ++ a.display))
    | none => .ok Datum.none
  match kind.subjetParams with
  | .none => pure .none
  | .n => pure (.one (← value "n"))
  | .mn => pure (.two (← value "m") (← value "n"))

def construct (kind : ObservableKind) (args : List (String × ObjectArg)) : Outcome Observable := do
  let (params, required) := kind.parameters
  let get ← bindArguments kind.initName params required args
  let counts ← countsOf kind get
  let className := match get "class_name" with
    | some (.value d) => d
    | some (.object o) => .str o.name
    | _ => Datum.none
  create kind ((get "physics_object").getD (.value .none)) className
    ((get "supported_objects").getD (.value .none)) counts

def splitName (name : String) : Option String × String :=
  match (Text.splitOn name ".").reverse with
  | cn :: parts@(_ :: _) => (some (".".intercalate parts.reverse), cn)
  | [cn] => (none, cn)
  | [] => (none, name)

def digitOf (c : Option Char) : Outcome Int :=
  match c with
  | some c =>
    match Text.digitValue? c with
    | some v => .ok v
    | none => .error (.invalidInteger (String.singleton c))
  | none => .error .textIndex

def fromEnd (s : String) (k : Nat) : Option Char := s.toList.reverse[k - 1]?

def startsWithTau (s : String) : Bool := Text.startsWith (Text.lower s) "tau"

/--
Makes an observable of a kind from a name and keyword arguments. A keyword
class name replaces the one in the name.
-/
def ofNameAs (kind : ObservableKind) (name : String) (kwargs : List (String × ObjectArg)) :
    Outcome Observable := do
  let (po, cn) := splitName name
  let poArg : ObjectArg := match po with
    | some s => .value (.str s)
    | none => .value .none
  match kind with
  | .angularDistance => construct kind [("physics_object", poArg), ("class_name", .value (.str cn))]
  | .tauN =>
    if startsWithTau cn then
      let n ← match kwargs.lookup "n" with
        | some a => pure a
        | none => do let v ← digitOf (fromEnd cn 1); pure (.value (.int v))
      construct kind [("n", n), ("physics_object", poArg), ("class_name", .value (.str cn))]
    else .error (.unboundParameter "n")
  | .tauMN =>
    if startsWithTau cn then
      let m ← match kwargs.lookup "m" with
        | some a => pure a
        | none => do let v ← digitOf (fromEnd cn 2); pure (.value (.int v))
      let n ← match kwargs.lookup "n" with
        | some a => pure a
        | none => do let v ← digitOf (fromEnd cn 1); pure (.value (.int v))
      construct kind [("m", m), ("n", n), ("physics_object", poArg), ("class_name", .value (.str cn))]
    else .error (.unboundParameter "m")
  | _ =>
    let className := (kwargs.lookup "class_name").getD (.value (.str cn))
    let rest := kwargs.filter (fun kv => kv.1 != "class_name")
    match rest.find? (fun kv => kv.1 == "physics_object") with
    | some _ => .error (.repeatedParameter (kind.modulePath ++ "." ++ kind.className) "physics_object")
    | none => construct kind ([("physics_object", poArg), ("class_name", className)] ++ rest)

def isTauName (cn : String) (digits : Nat) : Bool :=
  match Text.lower cn |>.toList with
  | 't' :: 'a' :: 'u' :: rest =>
    let ds := rest.takeWhile Text.isDecimalDigit
    ds.length = digits && ObjectName.atEnd (rest.drop digits)
  | _ => false

/--
Reads an observable from a name under an alias table. The names "None" gives
nothing. A class name in the table gives that kind; else a τ name gives τ_N or
τ_M/τ_N.
-/
def parse (table : AliasTable) (name : String) (kwargs : List (String × ObjectArg)) :
    Outcome (Option Observable) :=
  if name = "None" then .ok none
  else
    let cn := (splitName name).2
    let kw := fun (kind : ObservableKind) =>
      (ofNameAs kind name (kwargs.filter (fun kv => kv.1 != "class_name") ++ [("class_name", .value (.str cn))])).map some
    match table.find? cn with
    | some kind => kw kind
    | none =>
      if isTauName cn 1 then kw .tauN
      else if isTauName cn 2 then kw .tauMN
      else .error (.invalidObservable name)

def ofConfig (kind : ObservableKind) (config : List (String × Datum)) : Outcome Observable :=
  construct kind (config.map (fun kv => (kv.1, .value kv.2)))

def sameObject : Option PhysicsObject → Option PhysicsObject → Outcome Bool
  | none, none => .ok true
  | some a, some b => .ok (Text.lower a.name == Text.lower b.name)
  | _, _ => .error (.noMember "NoneType" "lower")

def equals (a b : Observable) : Outcome Bool := do
  let same ← sameObject a.physicsObject b.physicsObject
  pure (same && a.kind == b.kind)

end Observable

end ColliderML
