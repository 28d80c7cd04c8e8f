import ColliderML.Observable.Kind

/-!
The alias table: which kind of observable each class name and alias denotes.
Registering a name again makes it denote the new kind. The shipped table holds
every kind's class name and its usual aliases, such as `pt`, `PT` and
`TransverseMomentum` for the transverse momentum and `DeltaR` for the angular
distance; the generic kind has no entry.
-/

namespace ColliderML

/-- An alias table: names and the kinds they denote, in order of first registration. -/
structure AliasTable where
  entries : List (String × ObservableKind)
  deriving Inhabited

namespace AliasTable

def find? (t : AliasTable) (name : String) : Option ObservableKind := t.entries.lookup name

def register (t : AliasTable) (name : String) (kind : ObservableKind) : AliasTable :=
  if (t.find? name).isSome then
    ⟨t.entries.map (fun e => if e.1 == name then (name, kind) else e)⟩
  else ⟨t.entries ++ [(name, kind)]⟩

def registerAll (t : AliasTable) (names : List String) (kind : ObservableKind) : AliasTable :=
  names.foldl (fun t n => t.register n kind) t

def shippedAliases : ObservableKind → List String
  | .px => ["MomentumX", "momentum_x", "px"]
  | .py => ["MomentumY", "momentum_y", "py"]
  | .pz => ["MomentumZ", "momentum_z", "pz"]
  | .energy => ["Energy", "energy", "e"]
  | .pt => ["TransverseMomentum", "transverse_momentum", "pt", "PT", "pT"]
  | .eta => ["Pseudorapidity", "pseudorapidity", "eta"]
  | .phi => ["AzimuthalAngle", "azimuthal_angle", "phi"]
  | .mass => ["Mass", "mass", "m"]
  | .angularDistance => ["angular_distance", "DeltaR", "delta_r"]
  | .charge => ["charge"]
  | .invariantMass => ["InvariantMass", "invariant_mass", "InvMass", "inv_mass", "InvM", "inv_m"]
  | .nSubjettiness => ["n_subjettiness"]
  | .tauN => ["tau_n"]
  | .nSubjettinessRatio => ["n_subjettiness_ratio"]
  | .tauMN => ["tau_mn"]
  | .size => ["size"]
  | .bTag => ["b_tag"]
  | .tauTag => ["tau_tag"]
  | .generic => []

def shipped : AliasTable :=
  ObservableKind.all.foldl (fun t k => t.registerAll (k.className :: shippedAliases k) k) ⟨[]⟩

end AliasTable

end ColliderML
