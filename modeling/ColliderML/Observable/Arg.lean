import ColliderML.Observable.Basic

/-!
Values that stand where an observable is expected. Sets and images hold such
values as they are given: an observable, a physics object, or any other value
(nothing among them). The operations an observable offers, its class name,
name and configuration, are offered by a physics object too, and refused by
any other value with the failure that names its kind.
-/

namespace ColliderML

/-- A value standing where an observable is expected. -/
inductive ObservableArg where
  | observable (o : Observable)
  | object (o : PhysicsObject)
  | value (d : Datum)
  deriving Inhabited

namespace ObservableArg

def className : ObservableArg → String
  | .observable o => o.kind.className
  | .object p => p.kind.name
  | .value d => d.kindName

def name : ObservableArg → Outcome String
  | .observable o => .ok o.name
  | .object p => .ok p.name
  | .value d => .error (.noMember d.kindName "name")

def config : ObservableArg → Outcome Datum
  | .observable o => .ok o.config
  | .object p => .ok p.config
  | .value d => .error (.noMember d.kindName "config")

def classConfig (a : ObservableArg) : Outcome Datum := do
  let c ← a.config
  pure (.dict [("class_name", .str a.className), ("config", c)])

def describe : ObservableArg → Outcome Datum
  | .observable o => .ok o.describe
  | .object p => .error (.noMember p.kind.name "class_name")
  | .value .none => .ok .none
  | .value d => .error (.noMember d.kindName "class_name")

end ObservableArg

end ColliderML
