import ColliderML.Event.Momentum

/-!
# Jet constituents

A jet's constituents are references to entries of the particle-flow branches
(tracks, photons, neutral hadrons), by identifier. Matching gathers, per event
and per jet, the positions of the flow entries whose identifier equals each
reference, in the order of the references and, for each, of the entries.

The momenta of a branch are a record array: its transverse momenta as data,
with the four components as named fields. Iterating it yields rows of its data
alone, so the gathering loop asks a plain number for a component as soon as a
jet has a match. The matched components of each branch are zipped into a record
array again, but joining the three keeps their data alone, and no component
can then be read from the constituents.
-/

namespace ColliderML

/-- An array with named fields that travel with it but not with what iterating
it yields. -/
structure FieldArray where
  data : Tensor
  fields : List (String × Tensor)

namespace FieldArray

def field (a : FieldArray) (name : String) : Outcome Tensor :=
  match a.fields.lookup name with
  | some t => .ok t
  | none => .error (.noField name)

def zipLists (named : List (String × Datum)) : Outcome FieldArray := do
  let fields ← named.mapM fun e => do pure (e.1, ← Tensor.ofDatum .float64 e.2)
  pure ⟨(fields.headD ("", default)).2, fields⟩

end FieldArray

def Momenta.toFieldArray (m : Momenta) : FieldArray :=
  ⟨m.pt, [("pt", m.pt), ("eta", m.eta), ("phi", m.phi), ("mass", m.mass)] ++
    (match m.id with
      | some t => [("id", t)]
      | none => [])⟩

namespace Constituents

def matchRow {α : Type} (eq : α → α → Bool) (ids : List α) (refs : List (List α)) : List (List Nat) :=
  refs.map (fun group => group.flatMap (fun r =>
    (ids.zipIdx.filter (fun e => eq r e.1)).map (·.2)))

def matchAll {α : Type} (eq : α → α → Bool) (ids : List (List α)) (refs : List (List (List α))) :
    List (List (List Nat)) :=
  (ids.zip refs).map (fun e => matchRow eq e.1 e.2)

def matchesToDatum (m : List (List (List Nat))) : Datum :=
  .list (m.map (fun ev => .list (ev.map (fun jet => .list (jet.map (fun (i : Nat) => Datum.int (Int.ofNat i)))))))

def rowsOf (t : Tensor) : List (List Scalar) := t.rows.map Tensor.toList

def flowBranches : List String := ["EFlowTrack", "EFlowPhoton", "EFlowNeutralHadron"]

def refRows (refs : Tensor) : List (List (List Scalar)) :=
  refs.rows.map (fun ev => ev.rows.map Tensor.toList)

def flowMatches (refs : Tensor) (m : Momenta) : List (List (List Nat)) :=
  let ids := match m.id with
    | some t => rowsOf t
    | none => []
  matchAll (fun a b => Scalar.compare .eq a b) ids (refRows refs)

/-- The entry at a position of a row, asked for a component. The entry is a
plain number, or a plain array, and has no components. -/
def entryComponent (row : Tensor) (i : Int) (name : String) : Outcome Datum := do
  if row.ndim == 0 then throw (.other .outOfRange "invalid index to scalar variable.")
  let entry ← row.index [.pos i]
  throw (.noMember (if entry.ndim == 0 then entry.dtype.scalarClass else "numpy.ndarray") name)

/-- One event of the gathering loop, for one component: per jet, the component
of the entries at the jet's positions. -/
def gatherEvent (row positions : Tensor) (name : String) : Outcome Datum := do
  let jets ← positions.rows.mapM fun jet => do
    pure (Datum.list (← jet.toList.mapM fun i => entryComponent row i.toInt name))
  pure (.list jets)

/-- The gathering loop: iterating the events of a record array alongside their
positions, per event the transverse momenta, azimuths, pseudorapidities and
masses of the matched entries, listed as pt, eta, phi, mass. -/
def takeMomentum4d (a : FieldArray) (positions : Tensor) : Outcome (List (List Datum)) := do
  let perEvent ← (a.data.rows.zip positions.rows).mapM fun e => do
    let pt ← gatherEvent e.1 e.2 "pt"
    let phi ← gatherEvent e.1 e.2 "phi"
    let eta ← gatherEvent e.1 e.2 "eta"
    let mass ← gatherEvent e.1 e.2 "mass"
    pure [pt, eta, phi, mass]
  pure ((List.range 4).map fun k => perEvent.map (·.getD k .none))

def flowConstituents (refs : Tensor) (m : Momenta) : Outcome FieldArray := do
  let positions ← Tensor.ofDatum .int64 (matchesToDatum (flowMatches refs m))
  let comps ← takeMomentum4d m.toFieldArray positions
  FieldArray.zipLists ((["pt", "eta", "phi", "mass"].zip comps).map fun e => (e.1, .list e.2))

/-- The constituents of the jets whose references are under `key`: the matched
momenta of each flow branch, joined along the last axis, which keeps their data
alone, in single precision. -/
def constituents (ev : Events) (key : String) : Outcome FieldArray := do
  let refs ← ev.array key
  let flows ← flowBranches.mapM (fun b => Momenta.ofBranch ev b true)
  let matched ← flows.mapM (flowConstituents refs)
  let joined ← Tensor.concatAlong ((matched.headD ⟨default, []⟩).data.ndim - 1) (matched.map (·.data))
  pure ⟨joined.astype .float32, []⟩

def component (ev : Events) (key : String) (attr : String) : Outcome Tensor := do
  (← constituents ev key).field attr

end Constituents

end ColliderML
