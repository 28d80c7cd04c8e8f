import ColliderML.Error

/-!
Kinds of observable: the quantities an analysis reads for a physics object.

Kinematic quantities (momentum components, energy, transverse momentum,
pseudorapidity, azimuth, mass) are read for single, collective or nested
objects; the charge and the b- and tau-tags for single or collective ones; the
number of entries for collective ones; the angular distance for a pair of
objects; the invariant mass for a single object or a group; the n-subjettiness
τ_N and ratios τ_M/τ_N for single or collective jets. The generic kind reads
nothing by itself and takes the kinds it supports as an argument.
-/

namespace ColliderML

inductive ObservableKind where
  | generic
  | px
  | py
  | pz
  | energy
  | pt
  | eta
  | phi
  | mass
  | angularDistance
  | charge
  | invariantMass
  | nSubjettiness
  | tauN
  | nSubjettinessRatio
  | tauMN
  | size
  | bTag
  | tauTag
  deriving DecidableEq, Repr, Inhabited

/-- The parameters a kind takes before the physics object: none, a subjet count
n, or two subjet counts m and n. -/
inductive SubjetParams where
  | none
  | n
  | mn
  deriving DecidableEq, Repr

namespace ObservableKind

def all : List ObservableKind :=
  [.px, .py, .pz, .energy, .pt, .eta, .phi, .mass, .angularDistance, .charge, .invariantMass,
   .nSubjettiness, .tauN, .nSubjettinessRatio, .tauMN, .size, .bTag, .tauTag]

def className : ObservableKind → String
  | .generic => "Observable"
  | .px => "Px"
  | .py => "Py"
  | .pz => "Pz"
  | .energy => "E"
  | .pt => "Pt"
  | .eta => "Eta"
  | .phi => "Phi"
  | .mass => "M"
  | .angularDistance => "AngularDistance"
  | .charge => "Charge"
  | .invariantMass => "InvariantMass"
  | .nSubjettiness => "NSubjettiness"
  | .tauN => "TauN"
  | .nSubjettinessRatio => "NSubjettinessRatio"
  | .tauMN => "TauMN"
  | .size => "Size"
  | .bTag => "BTag"
  | .tauTag => "TauTag"

def modulePath : ObservableKind → String
  | .generic => "hml.observables.observable"
  | .px | .py | .pz | .energy | .pt | .eta | .phi | .mass => "hml.observables.kinematics"
  | .angularDistance => "hml.observables.angular_distance"
  | .charge => "hml.observables.charge"
  | .invariantMass => "hml.observables.invariant_mass"
  | .nSubjettiness | .tauN | .nSubjettinessRatio | .tauMN => "hml.observables.n_subjettiness"
  | .size => "hml.observables.size"
  | .bTag | .tauTag => "hml.observables.tag"

def supported : ObservableKind → Option (List ObjectClass)
  | .generic => none
  | .px | .py | .pz | .energy | .pt | .eta | .phi | .mass => some [.single, .collective, .nested]
  | .angularDistance => some [.single, .collective, .nested, .multiple]
  | .charge | .bTag | .tauTag => some [.single, .collective]
  | .invariantMass => some [.single, .multiple]
  | .nSubjettiness | .tauN | .nSubjettinessRatio | .tauMN => some [.single, .collective]
  | .size => some [.collective]

def subjetParams : ObservableKind → SubjetParams
  | .nSubjettiness | .tauN => .n
  | .nSubjettinessRatio | .tauMN => .mn
  | _ => .none

def initName : ObservableKind → String
  | .tauN => "NSubjettiness.__init__"
  | .tauMN => "NSubjettinessRatio.__init__"
  | k => k.className ++ ".__init__"

def parameters : ObservableKind → List String × List String
  | .generic => (["physics_object", "class_name", "supported_objects"], [])
  | k => match k.subjetParams with
    | .none => (["physics_object", "class_name"], ["physics_object"])
    | .n => (["n", "physics_object", "class_name"], ["n", "physics_object"])
    | .mn => (["m", "n", "physics_object", "class_name"], ["m", "n", "physics_object"])

end ObservableKind

end ColliderML
