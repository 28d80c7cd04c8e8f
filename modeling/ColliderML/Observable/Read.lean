import ColliderML.Observable.Basic
import ColliderML.Event.Constituents

/-!
# Reading observables from event data

An observable reads its values for every event as an array:

- A quantity of a single or collective object comes from the branch's own
  array for it (`<branch>.<quantity>`, letter case aside) if there is one, and
  else from the momenta of the branch. A nested object reads the constituents.
  The object's slice is then taken along the second axis; when the slice has an
  upper bound and the entries fall short of it, the axis is padded with missing
  entries up to the length the slice asks for.
- The number of entries of a collective object is the branch's `_size` array.
- τ_N is entry N of the branch's `Tau[5]` array, sliced and padded the same
  way, and a ratio τ_M/τ_N divides two such reads.
- The angular distance of two objects is √(Δη² + Δφ²) over every pair of their
  entries.
- The invariant mass of several single objects is the mass component of the sum
  of their momenta, each padded to one entry.
-/

namespace ColliderML

namespace Observable

def attrName (k : ObservableKind) : String := Text.lower k.className

def branchName (po : PhysicsObject) : Outcome String :=
  match po.branch with
  | .name s => .ok s
  | .group _ => .error (.noMember "list" "lower")

def sliceIndex : Slice → Index
  | .range a b => .range a b
  | .group _ => .all

def rowsBefore (t : Tensor) (axis : Nat) : Nat := (t.shape.take axis).foldr (· * ·) 1

/--
Pads for the slices of an object: for the last slice with an upper bound, when
some row falls short of the length it asks for, the axis after the rows is
padded up to that length.
-/
def padForSlices (value : Tensor) (slices : List Slice) : Tensor :=
  slices.zipIdx.foldl (fun v e =>
    match e.1 with
    | .range start (some stop) =>
      let required : Int := stop - start.getD 0
      let axis := e.2 + 1
      if axis == slices.length && rowsBefore v axis > 0 && (v.shape.getD axis 0 : Int) < required then
        v.padAxis required.toNat axis
      else v
    | _ => v) value

def sliceValue (value : Tensor) (slices : List Slice) : Outcome Tensor := do
  let v ← value.index (.all :: (slices.take 2).map sliceIndex)
  pure (padForSlices v slices)

def readQuantity (ev : Events) (po : PhysicsObject) (attr : String) : Outcome Tensor := do
  let branch := Text.lower (← branchName po)
  let value ← match po with
    | .nested .. => do
      let key ← ev.keyFor branch
      Constituents.component ev key attr
    | _ =>
      match ev.keyFor? (branch ++ "." ++ attr) with
      | some k => ev.array k
      | none => do
        let key ← ev.keyFor branch
        let m ← Momenta.ofBranch ev key false
        m.attr attr
  sliceValue value po.slices

def countIndex (n : Datum) : Outcome Index :=
  match n with
  | .int i => .ok (.pos (i - 1))
  | .bool b => .ok (.pos ((if b then 1 else 0) - 1))
  | .float _ => .error (.other .outOfRange
      "only integers, slices (`:`), ellipsis (`...`), numpy.newaxis (`None`) and integer or boolean arrays are valid indices")
  | d => .error (.unsupportedOperands "-" d.kindName "int")

def readTau (ev : Events) (po : PhysicsObject) (n : Datum) : Outcome Tensor := do
  let branch := Text.lower (← branchName po)
  match ev.keyFor? (branch ++ ".tau[5]") with
  | none => throw (.other .badValue "")
  | some k =>
    let arr ← ev.array k
    let s0 := (po.slices.head?.map sliceIndex).getD .all
    let a ← arr.index [.all, s0]
    let v ← a.index [.all, .all, ← countIndex n]
    pure (padForSlices v po.slices)

def readSize (ev : Events) (po : PhysicsObject) : Outcome Tensor := do
  let branch := Text.lower (← branchName po)
  match ev.keyFor? (branch ++ "_size") with
  | some k => ev.array k
  | none => throw (.missingKey (quoteText ("Key " ++ branch ++ "_size not found in the events.")))

def pairDifferences (a b : Tensor) : Outcome Tensor := do
  let x ← a.index [.all, .all, .newAxis]
  let y ← b.index [.all, .newAxis, .all]
  Tensor.arith .sub x y

def readAngular (ev : Events) (a b : PhysicsObject) : Outcome Tensor := do
  let eta0 ← readQuantity ev a "eta"
  let phi0 ← readQuantity ev a "phi"
  let eta1 ← readQuantity ev b "eta"
  let phi1 ← readQuantity ev b "phi"
  let merge := fun (t : Tensor) => if t.ndim = 3 then t.mergeInner else t
  let de ← pairDifferences (merge eta0) (merge eta1)
  let dp ← pairDifferences (merge phi0) (merge phi1)
  let s ← Tensor.arith .add (← de.square) (← dp.square)
  pure s.sqrt

def readInvariantMass (ev : Events) (po : PhysicsObject) : Outcome Tensor := do
  match po with
  | .multiple all =>
    let parts ← all.mapM (fun obj => do
      let key ← ev.keyFor (Text.lower (← branchName obj))
      let m ← Momenta.ofBranch ev key false
      let s0 := (obj.slices.head?.map sliceIndex).getD .all
      let sliced ← m.mapFields (fun t => t.index [.all, s0])
      sliced.mapFields (fun t => pure (t.padAxis 1 1)))
    match parts with
    | [] => throw (.other .badType "reduce() of empty iterable with no initial value")
    | p :: rest =>
      let total ← rest.foldlM Momenta.add p
      pure { total.mass with optional := false }
  | p => throw (.noMember p.kind.name "all")

def countOf (o : Observable) : Datum :=
  match o.counts with
  | .one n => n
  | _ => .none

def objectOf (o : Observable) (member : String) : Outcome PhysicsObject :=
  match o.physicsObject with
  | some p => .ok p
  | none => .error (.noMember "NoneType" member)

def lengthsOf (value : Tensor) : List String := (Text.splitOn value.typeText " * ").dropLast

def read (ev : Events) (o : Observable) : Outcome Tensor := do
  match o.kind with
  | .size => readSize ev (← objectOf o "branch")
  | .angularDistance =>
    match ← objectOf o "all" with
    | .multiple [a, b] => readAngular ev a b
    | _ => throw .twoObjectsRequired
  | .invariantMass => readInvariantMass ev (← objectOf o "all")
  | .nSubjettiness | .tauN => readTau ev (← objectOf o "branch") (countOf o)
  | .nSubjettinessRatio | .tauMN =>
    match o.counts with
    | .two m n => do
      let po ← objectOf o "branch"
      let a ← readTau ev po m
      let b ← readTau ev po n
      Tensor.arith .div a b
    | _ => throw (.other .badValue "")
  | kind =>
    match o.supported with
    | none => throw (.other .badType "argument of type 'NoneType' is not iterable")
    | some ks =>
      if ks.contains "multiple" then throw .notProvided
      else readQuantity ev (← objectOf o "branch") (attrName kind)

end Observable

end ColliderML
