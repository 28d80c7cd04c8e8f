import ColliderML.Observable.Kind
import ColliderML.PhysicsObject.Construct

/-!
Observables: a kind of quantity, the physics object it is read for, and the
class name it was asked for by (an alias such as `pt` for the transverse
momentum). Its name is the object's name and the class name joined by a dot.

An observable is valid when its kind supports its object: an object is needed
once a kind restricts objects; without "multiple" among the supported kinds
the object's own kind must be supported; with it, the object must be a
multiple object whose members are all of supported kinds.
-/

namespace ColliderML

/-- The subjet counts an observable was made with, kept as given. -/
inductive SubjetCounts where
  | none
  | one (n : Datum)
  | two (m n : Datum)
  deriving Inhabited

structure Observable where
  kind : ObservableKind
  physicsObject : Option PhysicsObject
  /-- The class name it was asked for by; a text unless built from loose arguments. -/
  className : Datum
  /-- The lower-case kinds of physics object it supports, if restricted. -/
  supported : Option (List String)
  counts : SubjetCounts
  deriving Inhabited

namespace Observable

def name (o : Observable) : String :=
  match o.physicsObject with
  | some p => p.name ++ "." ++ o.className.display
  | none => o.className.display

def config (o : Observable) : Datum :=
  let base := [("physics_object", Datum.ofOption (o.physicsObject.map PhysicsObject.name)),
    ("class_name", o.className)]
  match o.counts with
  | .none => .dict base
  | .one n => .dict (base ++ [("n", n)])
  | .two m n => .dict (base ++ [("m", m), ("n", n)])

def ratioParts (o : Observable) : Option (Observable × Observable) :=
  match o.counts with
  | .two m n =>
    let part := fun (c : Datum) =>
      { kind := .tauN, physicsObject := o.physicsObject, className := .str "TauN",
        supported := o.supported, counts := .one c : Observable }
    some (part m, part n)
  | _ => none

def describeOwn (o : Observable) : Datum :=
  let base := [("class", .str o.kind.className), ("name", .str o.name), ("class_name", o.className),
    ("physics_object", match o.physicsObject with
      | some p => p.describe
      | none => .none),
    ("supported_objects", match o.supported with
      | some s => Datum.ofStrings s
      | none => .none),
    ("config", o.config)]
  let counts := match o.counts with
    | .none => []
    | .one n => [("n", n)]
    | .two m n => [("m", m), ("n", n)]
  .dict (base ++ counts)

def describe (o : Observable) : Datum :=
  match o.ratioParts, o.describeOwn with
  | some (tm, tn), .dict fs => .dict (fs ++ [("tau_m", tm.describeOwn), ("tau_n", tn.describeOwn)])
  | _, d => d

def checkObject (po : Option PhysicsObject) (supported : Option (List String)) : Outcome Unit :=
  match supported with
  | none => .ok ()
  | some kinds =>
    match po with
    | none => .error .unsupportedObject
    | some p =>
      if !kinds.contains "multiple" then
        if kinds.contains p.kind.word then .ok () else .error .unsupportedObject
      else
        match p with
        | .multiple all =>
          if all.all (fun m => kinds.contains m.kind.word) then .ok () else .error .unsupportedObject
        | p => .error (.noMember p.kind.name "all")

def objectOfArg : ObjectArg → Outcome (Option PhysicsObject)
  | .object o => .ok (some o)
  | .value (.str s) => (PhysicsObject.ofName s).map some
  | _ => .ok none

def supportedOfArg : ObjectArg → Outcome (Option (List String))
  | .value .none => .ok none
  | a => do
    let items ← a.items
    let words ← items.mapM (fun i =>
      match i with
      | .value (.str s) => .ok (Text.lower s)
      | .object o => .ok o.kind.word
      | i => .error (.noMember i.kindName "lower"))
    pure (some words)

/--
Makes an observable of a kind: the object from its argument, the class name
(the kind's own when the given one is empty), the supported kinds (the kind's
own, or those given for the generic kind), then the check. An angular distance
needs exactly two objects.
-/
def create (kind : ObservableKind) (po : ObjectArg) (className : Datum)
    (supportedArg : ObjectArg) (counts : SubjetCounts) : Outcome Observable := do
  let p ← objectOfArg po
  let cn := if className.truthy then className else .str kind.className
  let supported ← match kind.supported with
    | some ks => pure (some (ks.map ObjectClass.word))
    | none => supportedOfArg supportedArg
  checkObject p supported
  if kind = .angularDistance then
    match p with
    | some (.multiple all) => if all.length = 2 then pure () else .error .twoObjectsRequired
    | _ => pure ()
  pure { kind, physicsObject := p, className := cn, supported, counts }

end Observable

end ColliderML
