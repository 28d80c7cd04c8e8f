import ColliderML.PhysicsObject.Name

/-!
Building physics objects from loosely typed arguments.

An argument is a physics object, a data value, or a list of arguments. The
constructors bind named arguments to their parameters (an unknown name is
refused before a missing one), then build the object. A nested object's sides
and a multiple object's members may be objects or names; a name that is not a
text is refused. A single or collective object whose fields are not a text and
integers cannot be built, but it can still be described: its description is
computed from the fields as given, and its slice bound `index + 1` fails as
adding 1 to such a value fails.

The predicates `isSingle`, `isCollective`, `isNested` and `isMultiple` classify
an argument: an object by its kind, a text by the name grammar.
-/

namespace ColliderML

/-- An argument that may stand for a physics object. -/
inductive ObjectArg where
  | object (o : PhysicsObject)
  | value (d : Datum)
  | list (items : List ObjectArg)
  deriving Inhabited

namespace ObjectArg

def kindName : ObjectArg → String
  | .object o => o.kind.name
  | .value d => d.kindName
  | .list _ => "list"

mutual
def display : ObjectArg → String
  | .object o => o.name
  | .value d => d.display
  | .list items => "[" ++ literals items ++ "]"

def literal : ObjectArg → String
  | .object o => o.text
  | .value d => d.literal
  | .list items => "[" ++ literals items ++ "]"

def literals : List ObjectArg → String
  | [] => ""
  | [a] => literal a
  | a :: rest => literal a ++ ", " ++ literals rest
end

def items : ObjectArg → Outcome (List ObjectArg)
  | .list xs => .ok xs
  | .value (.list ds) => .ok (ds.map .value)
  | .value (.str s) => .ok (s.toList.map (fun c => .value (.str (String.singleton c))))
  | .value (.dict fs) => .ok (fs.map (fun kv => .value (.str kv.1)))
  | a => .error (.notIterable a.kindName)

def text : ObjectArg → Outcome String
  | .value (.str s) => .ok s
  | a => .error (.notText a.kindName)

end ObjectArg

/--
Binds named arguments to the parameters of a callee: every name must be a
parameter, and every required parameter must be given. Unknown names are
reported before missing ones, each in the order given.
-/
def bindArguments {α : Type} (callee : String) (params required : List String)
    (args : List (String × α)) : Outcome (String → Option α) :=
  match args.find? (fun kv => !params.contains kv.1) with
  | some (k, _) => .error (.unexpectedParameter callee k)
  | none =>
    let missing := required.filter (fun p => (args.lookup p).isNone)
    if missing.isEmpty then .ok (fun p => args.lookup p)
    else .error (.missingParameters callee missing)

namespace PhysicsObject

def isSingleArg : ObjectArg → Outcome Bool
  | .object o => .ok (o.kind == .single)
  | a => do let s ← a.text; pure (ObjectName.isSingle s.toList)

def isCollectiveArg : ObjectArg → Outcome Bool
  | .object o => .ok (o.kind == .collective)
  | a => do let s ← a.text; pure (ObjectName.isCollective s.toList)

def isNestedArg : ObjectArg → Outcome Bool
  | .object o => .ok (o.kind == .nested)
  | a => do let s ← a.text; pure (ObjectName.isNested s.toList)

def kindWord : ObjectArg → String
  | .value (.str s) => Text.lower s
  | .object o => o.kind.word
  | a => Text.lower a.kindName

/--
Whether an argument is multiple, and then whether every member's kind is
allowed. A text is multiple when it reads as a multiple name; any other value
counts as multiple while no kinds are given, and a value that is not a multiple
object has no members to check.
-/
def isMultipleArg (a : ObjectArg) (allowed : Option (List ObjectArg)) : Outcome Bool :=
  let subject : Option ObjectArg :=
    match a with
    | .value (.str s) =>
      match multipleOfName s with
      | .ok o => some (.object o)
      | .error _ => none
    | _ => some a
  match subject, allowed with
  | none, _ => .ok false
  | some _, none => .ok true
  | some (.object (.multiple all)), some kinds =>
    let words := kinds.map kindWord
    .ok (all.all (fun o => words.contains o.kind.word))
  | some s, some _ => .error (.noMember s.kindName "all")

def partOfArg : ObjectArg → Outcome PhysicsObject
  | .object o => .ok o
  | a => do
    let s ← a.text
    partOfName s

def memberOfArg : ObjectArg → Outcome PhysicsObject
  | .object o => .ok o
  | a => do
    let s ← a.text
    memberOfName s

def nestedOfArgs (main sub : ObjectArg) : Outcome PhysicsObject := do
  let m ← partOfArg main
  let s ← partOfArg sub
  pure (.nested m s)

def multipleOfArg (all : ObjectArg) : Outcome PhysicsObject := do
  let xs ← all.items
  let members ← xs.mapM memberOfArg
  pure (.multiple members)

end PhysicsObject

/-! ## Descriptions -/

def PhysicsObject.describe : PhysicsObject → Datum
  | o@(.nested main sub) =>
    .dict ([("class", .str o.kind.name), ("name", .str o.name), ("str", .str o.name),
      ("repr", .str o.text), ("branch", o.branch.toDatum), ("slices", .list (o.slices.map Slice.toDatum)),
      ("config", o.config)] ++ [("main", describe main), ("sub", describe sub)])
  | o@(.multiple all) =>
    .dict ([("class", .str o.kind.name), ("name", .str o.name), ("str", .str o.name),
      ("repr", .str o.text), ("branch", o.branch.toDatum), ("slices", .list (o.slices.map Slice.toDatum)),
      ("config", o.config)] ++ [("all", .list (all.map describe))])
  | o =>
    .dict [("class", .str o.kind.name), ("name", .str o.name), ("str", .str o.name),
      ("repr", .str o.text), ("branch", o.branch.toDatum), ("slices", .list (o.slices.map Slice.toDatum)),
      ("config", o.config)]

def looseField : ObjectArg → Outcome Datum
  | .value d => .ok d
  | a => .error (.badRequest ("unsupported field value " ++ a.display))

def successorBound : Datum → Outcome Datum
  | .int i => .ok (.int (i + 1))
  | .bool b => .ok (.int (if b then 2 else 1))
  | .float x => .ok (.float (x + 1.0))
  | .str _ => .error (.textConcatenation "str" "int")
  | .list _ => .error (.listConcatenation "list" "int")
  | d => .error (.unsupportedOperands "+" d.kindName "int")

def looseDescription (cls : ObjectClass) (name : String) (branch : Datum)
    (slice : Datum) (config : Datum) : Datum :=
  .dict [("class", .str cls.name), ("name", .str name), ("str", .str name),
    ("repr", .str (constructorText cls.name config)), ("branch", branch),
    ("slices", .list [slice]), ("config", config)]

/--
Builds an object of a kind from named arguments and describes it. A single or
collective object with other field values than a text and integers is
described from its fields as given.
-/
def PhysicsObject.describeNew (cls : ObjectClass) (args : List (String × ObjectArg)) :
    Outcome Datum := do
  match cls with
  | .single =>
    let get ← bindArguments "Single.__init__" ["branch", "index"] ["branch", "index"] args
    let branch ← looseField ((get "branch").getD (.value .none))
    let index ← looseField ((get "index").getD (.value .none))
    match branch, index with
    | .str b, .int i => pure (PhysicsObject.single b i).describe
    | _, _ =>
      let stop ← successorBound index
      let name := branch.display ++ index.display
      pure (looseDescription .single name branch (.list [index, stop])
        (.dict [("branch", branch), ("index", index)]))
  | .collective =>
    let get ← bindArguments "Collective.__init__" ["branch", "start", "stop"] ["branch"] args
    let branch ← looseField ((get "branch").getD (.value .none))
    let start ← looseField ((get "start").getD (.value .none))
    let stop ← looseField ((get "stop").getD (.value .none))
    let bound : Datum → Option (Option Int)
      | .none => some none
      | .int i => some (some i)
      | _ => none
    match branch, bound start, bound stop with
    | .str b, some a, some z => pure (PhysicsObject.collective b a z).describe
    | _, _, _ =>
      let b := branch.display
      let name := match start, stop with
        | .none, .none => b
        | .none, z => b ++ ":" ++ z.display
        | a, .none => b ++ a.display ++ ":"
        | a, z => b ++ a.display ++ ":" ++ z.display
      pure (looseDescription .collective name branch (.list [start, stop])
        (.dict [("branch", branch), ("start", start), ("stop", stop)]))
  | .nested =>
    let get ← bindArguments "Nested.__init__" ["main", "sub"] ["main", "sub"] args
    let o ← nestedOfArgs ((get "main").getD (.value .none)) ((get "sub").getD (.value .none))
    pure o.describe
  | .multiple =>
    let get ← bindArguments "Multiple.__init__" ["all"] ["all"] args
    let o ← multipleOfArg ((get "all").getD (.value .none))
    pure o.describe

end ColliderML
