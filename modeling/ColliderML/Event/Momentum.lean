import ColliderML.Event.Basic
import ColliderML.Tensor.Reshape

/-!
# Four-momenta of a branch

The momenta of a branch are four arrays read from event data: the
pseudorapidity `<branch>.Eta`, the azimuth `<branch>.Phi`, the transverse
momentum from the first of `<branch>.PT`, `<branch>.ET` and `<branch>.MET`, and
the mass `<branch>.Mass` (zeros when absent), all made single precision; with
identifiers, `<branch>.fUniqueID` as it is.

The Cartesian components follow in the arrays' precision: px = pt·cos φ,
py = pt·sin φ, pz = pt·sinh η, and the energy is √((pt·cosh η)² + m²).
Momenta add component by component.
-/

namespace ColliderML

/-- Four-momenta: per entry a transverse momentum, pseudorapidity, azimuth, mass, and maybe an identifier. -/
structure Momenta where
  pt : Tensor
  eta : Tensor
  phi : Tensor
  mass : Tensor
  id : Option Tensor := none
  deriving Inhabited

namespace Momenta

def ofBranch (ev : Events) (branch : String) (withId : Bool) : Outcome Momenta := do
  let eta ← ev.array (branch ++ ".Eta")
  let phi ← ev.array (branch ++ ".Phi")
  let pt ← match ["PT", "ET", "MET"].find? (fun s => ev.has (branch ++ "." ++ s)) with
    | some s => ev.array (branch ++ "." ++ s)
    | none => throw (.other .badValue ("Cannot find the PT branch for " ++ branch))
  let mass ← if ev.has (branch ++ ".Mass") then ev.array (branch ++ ".Mass")
    else pure (Tensor.fill eta.dtype eta.shape (Scalar.cast eta.dtype (.int 0)))
  let id ← if withId then do pure (some (← ev.array (branch ++ ".fUniqueID"))) else pure none
  pure { pt := pt.astype .float32, eta := eta.astype .float32, phi := phi.astype .float32,
         mass := mass.astype .float32, id }

def combine (a b : Tensor) (single double : Float → Float → Float) : Tensor :=
  let t := Tensor.realType a.dtype
  Tensor.build t a.shape (fun pos =>
    let x := (a.get pos).toFloat
    let y := (b.get pos).toFloat
    .real (if t = .float32 then single x y else double x y))

def px (m : Momenta) : Tensor :=
  combine m.pt m.phi (fun p f => Single.mul p (Single.cos f)) (fun p f => p * f.cos)

def py (m : Momenta) : Tensor :=
  combine m.pt m.phi (fun p f => Single.mul p (Single.sin f)) (fun p f => p * f.sin)

def pz (m : Momenta) : Tensor :=
  combine m.pt m.eta (fun p e => Single.mul p (Single.sinh e)) (fun p e => p * e.sinh)

def energy (m : Momenta) : Tensor :=
  let p := combine m.pt m.eta (fun q e => Single.mul q (Single.cosh e)) (fun q e => q * e.cosh)
  combine p m.mass (fun q k => Single.sqrt (Single.add (Single.mul q q) (Single.mul k k)))
    (fun q k => (q * q + k * k).sqrt)

def attr (m : Momenta) (name : String) : Outcome Tensor :=
  match name with
  | "pt" => .ok m.pt
  | "eta" => .ok m.eta
  | "phi" => .ok m.phi
  | "mass" | "m" => .ok m.mass
  | "px" => .ok m.px
  | "py" => .ok m.py
  | "pz" => .ok m.pz
  | "e" => .ok m.energy
  | "id" =>
    match m.id with
    | some t => .ok t
    | none => .error (.noField name)
  | _ => .error (.noField name)

def mapFields (m : Momenta) (f : Tensor → Outcome Tensor) : Outcome Momenta := do
  pure { pt := ← f m.pt, eta := ← f m.eta, phi := ← f m.phi, mass := ← f m.mass,
         id := ← m.id.mapM f }

def add (a b : Momenta) : Outcome Momenta := do
  pure { pt := ← Tensor.arith .add a.pt b.pt, eta := ← Tensor.arith .add a.eta b.eta,
         phi := ← Tensor.arith .add a.phi b.phi, mass := ← Tensor.arith .add a.mass b.mass }

def toDatum (m : Momenta) : Datum :=
  let fields := [("pt", m.pt.toDatum), ("eta", m.eta.toDatum), ("phi", m.phi.toDatum),
    ("mass", m.mass.toDatum)] ++ (match m.id with
      | some t => [("id", t.toDatum)]
      | none => [])
  .dict [("data", m.pt.toDatum), ("fields", .dict fields)]

end Momenta

end ColliderML
