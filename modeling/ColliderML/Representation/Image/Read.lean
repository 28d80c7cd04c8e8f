import ColliderML.Representation.Image.Basic
import ColliderML.Representation.Image.Center
import ColliderML.Representation.Image.Pixels
import ColliderML.Observable.Read
import ColliderML.Number.Remainder
import ColliderML.Jet.Algorithm
import ColliderML.PhysicsObject.Construct

/-!
# Images of read events

Reading events into an image forgets that it was binned, marks it good, reads
the height, the width and the weight (when it has one), each with its two
innermost axes merged, and then runs the registered operations in order.
Once read, an operation runs at once and is recorded instead of registered;
the first failure stops a read and leaves the image as it was then.

- Finding subjets reads the Cartesian components `Px`, `Py`, `Pz` and `E` of
  the constituents named, and keeps them as the subjets; the clustering
  algorithm must be one that can be looked up.
- Moving the origin to a subjet subtracts that subjet's height and width
  (the subjet named by a position, such as `SubJet0`) from every point. An
  azimuthal axis then wraps into `[-π, π)`. Events with too few subjets mark
  the image as no longer good, and nothing moves.
- Turning the axes turns the points about the origin so that the named
  subjet comes to lie at the given orientation, in degrees: the angle is
  worked out in the subjets' precision and the turn in single precision.
- Binning, once read, moves every height and width to the centre of its bin,
  unless the image is no longer good.

The values of a binned, read image are the pixel grids of its events;
otherwise they are the height's and the width's values. An axis not read yet
holds an empty array of doubles.
-/

namespace ColliderML

inductive ImageValues where
  /-- The pixel grids of the events of a binned image. -/
  | grids (t : Tensor)
  /-- The height's and the width's values of an image not binned. -/
  | pair (height width : Tensor)
  deriving Inhabited

namespace ImageValues

def toDatum : ImageValues → Datum
  | .grids t => t.toDatum
  | .pair h w => .list [h.toDatum, w.toDatum]

end ImageValues

namespace Image

def unread : Tensor := Tensor.ofList .float64 []

def valueOf (v : Option Tensor) : Tensor := v.getD unread

def stopped (img : Image) : Bool :=
  match img.status with
  | .bool false => true
  | _ => false

def readAxis (ev : Events) (a : ObservableArg) : Outcome Tensor :=
  match a with
  | .observable o => do pure (← Observable.read ev o).mergeInner
  | a => .error (.noMember a.className "read")

def subjetObservable (table : AliasTable) (subjet : Datum) (axis : ObservableArg) :
    Outcome (Option Observable) :=
  Observable.parse table (subjet.display ++ "." ++ axis.className) []

def classOf : Option Observable → String
  | some o => o.kind.className
  | none => "NoneType"

def subjetPosition (o : Option Observable) : Outcome Int :=
  match o with
  | none => .error (.noMember "NoneType" "physics_object")
  | some o =>
    match o.physicsObject with
    | none => .error (.noMember "NoneType" "branch")
    | some (.single branch index) =>
      if branch == "SubJet" then .ok index
      else .error (.other .badValue (branch ++ " is not supported yet!"))
    | some p => .error (.noMember p.kind.name "index")

def subjetsOf (img : Image) : Outcome Subjets :=
  match img.subjets with
  | some s => .ok s
  | none => .error (.noMember "Image" "subjets")

def subjetRange (s : Subjets) (o : Option Observable) (start : Option Int) (stop : Int) :
    Outcome Tensor := do
  let t ← s.field (Text.lower (classOf o))
  let part ← t.index [.all, .range start (some stop)]
  pure (part.padAxis 1 1)

/-- The subjet positions a name leads to: the observables for the height and
width, the subjets, and the position; nothing when events have too few subjets. -/
def locate (table : AliasTable) (img : Image) (subjet : Datum) :
    Outcome (Option (Option Observable × Option Observable × Subjets × Int)) := do
  let oh ← subjetObservable table subjet img.height
  let ow ← subjetObservable table subjet img.width
  let index ← subjetPosition oh
  let s ← img.subjetsOf
  if (s.length : Int) < index + 1 then pure none else pure (some (oh, ow, s, index))

def wrapAngle (t : Tensor) : Tensor :=
  let p := Single.round Number.pi
  t.mapReal
    (fun x => Single.sub (Number.flooredRemainder Single.round (Single.add x p)
      (Single.round (2 * Number.pi))) p)
    (fun x => Number.flooredRemainder id (x + Number.pi) (2 * Number.pi) - Number.pi)

def difference (axis : ObservableArg) (values origin : Tensor) : Outcome Tensor := do
  let d ← Tensor.arith .sub values origin
  pure (if axis.className == "Phi" then wrapAngle d else d)

def findSubjets (table : AliasTable) (img : Image) (constituents algorithm r minPt : Datum) :
    Outcome Image := do
  let component := fun (name : String) => do
    let ev ← match img.events with
      | some ev => pure ev
      | none => throw (.noMember "Image" "event")
    match ← Observable.parse table (constituents.display ++ "." ++ name) [] with
    | some o => pure (← Observable.read ev o).mergeInner
    | none => throw (.noMember "NoneType" "read")
  let px ← component "Px"
  let py ← component "Py"
  let pz ← component "Pz"
  let e ← component "E"
  let _ ← JetAlgorithm.ofDatum algorithm
  pure { img with
    subjets := some ⟨[("px", px), ("py", py), ("pz", pz), ("e", e)]⟩
    recorded := img.recorded ++ [.withSubjets constituents algorithm r minPt] }

def translate (table : AliasTable) (img : Image) (origin : Datum) : Image × Option Error :=
  match locate table img origin with
  | .error e => (img, some e)
  | .ok none => ({ img with status := .bool false }, none)
  | .ok (some (oh, ow, s, index)) =>
    match (do pure (← subjetRange s oh none (index + 1), ← subjetRange s ow none (index + 1))) with
    | .error e => (img, some e)
    | .ok (h, w) =>
      let moved := { img with origin := some (h, w) }
      match (do pure (← difference img.height (valueOf img.heightValue) h,
                      ← difference img.width (valueOf img.widthValue) w)) with
      | .error e => (moved, some e)
      | .ok (th, tw) =>
        ({ moved with heightValue := some th, widthValue := some tw,
                      recorded := img.recorded ++ [.translate origin] }, none)

/-- The angle in radians, in single precision, by which the axes turn so that
a subjet at the given offsets comes to lie at an orientation in degrees. -/
def turnAngle (dh dw : Tensor) (orientation : Datum) : Outcome Tensor := do
  let t := Tensor.realType (DType.promote dh.dtype dw.dtype)
  let slope ← Tensor.zipWith t (fun y x =>
    .real (if t = .float32 then Single.atan2 y.toFloat x.toFloat
      else Float.atan2 y.toFloat x.toFloat)) dh dw
  let degrees ← Tensor.arith .mul slope (Tensor.literal slope.dtype (.int 180))
  let degrees ← Tensor.arith .div degrees (Tensor.literal degrees.dtype (.real Number.pi))
  let given ← match orientation with
    | .int i => pure (Scalar.int i)
    | .float x => pure (Scalar.real x)
    | .bool b => pure (Scalar.bool b)
    | d => throw (.unsupportedOperands "-" d.kindName "Array")
  let angle ← Tensor.arith .sub (Tensor.literal degrees.dtype given) degrees
  let radians := angle.mapReal
    (fun x => Single.mul x (Single.div (Single.round Number.pi) 180))
    (fun x => x * (Number.pi / 180))
  pure (radians.astype .float32)

def rotate (table : AliasTable) (img : Image) (axis orientation : Datum) : Outcome Image := do
  match ← locate table img axis with
  | none => pure { img with status := .bool false }
  | some (oh, ow, s, index) =>
    let h ← subjetRange s oh (some index) (index + 1)
    let w ← subjetRange s ow (some index) (index + 1)
    let (oh, ow) ← match img.origin with
      | some o => pure o
      | none => throw (.noMember "Image" "origin_height")
    let angle ← turnAngle (← Tensor.arith .sub h oh) (← Tensor.arith .sub w ow) orientation
    let cos := angle.mapReal Single.cos Float.cos
    let sin := angle.mapReal Single.sin Float.sin
    let x := valueOf img.widthValue
    let y := valueOf img.heightValue
    let x' ← Tensor.arith .sub (← Tensor.arith .mul cos x) (← Tensor.arith .mul sin y)
    let y' ← Tensor.arith .add (← Tensor.arith .mul sin x) (← Tensor.arith .mul cos y)
    pure { img with widthValue := some x', heightValue := some y',
                    recorded := img.recorded ++ [.rotate axis orientation] }

/-- The edges that values move to the centres of: a grid with its spacing is
a pair, which cannot be halved. -/
def centerEdges : Bins → Outcome (List Float)
  | .edges xs => .ok xs
  | .spaced _ _ => .error (.unsupportedOperands "/" "tuple" "int")
  | .none => .error (.notSubscriptable "NoneType")
  | .unset => .error (.notSubscriptable "NoneType")

/-- Bins the image: a read image that is still good has its values moved to
the centres of their bins; an image not read registers the binning. -/
def pixelate (img : Image) (size range : Datum) : Image × Option Error :=
  match img.binEdges size range with
  | (img, some e) => (img, some e)
  | (img, none) =>
    if !img.beenRead then (img.register (.pixelate size range), none)
    else if img.stopped then (img, none)
    else
      match (do (valueOf img.heightValue).toCenters (← centerEdges img.hBins)) with
      | .error e => (img, some e)
      | .ok h =>
        let img := { img with heightValue := some h }
        match (do (valueOf img.widthValue).toCenters (← centerEdges img.wBins)) with
        | .error e => (img, some e)
        | .ok w =>
          ({ img with widthValue := some w, recorded := img.recorded ++ [.pixelate size range] }, none)

def apply (table : AliasTable) (img : Image) (s : ImageStep) : Image × Option Error :=
  let done := fun (r : Outcome Image) =>
    match r with
    | .ok i => (i, none)
    | .error e => (img, some e)
  match s with
  | .pixelate size range => img.pixelate size range
  | s =>
    if !img.beenRead then (img.register s, none)
    else
      match s with
      | .withSubjets c a r m => done (findSubjets table img c a r m)
      | .translate o => translate table img o
      | .rotate a o => done (rotate table img a o)
      | .pixelate size range => img.pixelate size range

def replay (table : AliasTable) : Image → List ImageStep → Image × Option Error
  | img, [] => (img, none)
  | img, s :: rest =>
    match apply table img s with
    | (img, some e) => (img, some e)
    | (img, none) => replay table img rest

def read (table : AliasTable) (img : Image) (ev : Events) : Image × Option Error :=
  let img := { img with beenPixelated := none, beenRead := false, status := .bool true,
                        events := some ev }
  match readAxis ev img.height with
  | .error e => (img, some e)
  | .ok h =>
    let img := { img with heightValue := some h }
    match readAxis ev img.width with
    | .error e => (img, some e)
    | .ok w =>
      let img := { img with widthValue := some w }
      match (if img.hasChannel then (readAxis ev img.channel).map some else .ok none) with
      | .error e => (img, some e)
      | .ok c =>
        let img := { img with channelValue := c.or img.channelValue, beenRead := true }
        replay table img img.registered

/-- The image's values as arrays: the pixel grids of a binned, read image
(events by width bins by height bins), else the height's and the width's
values. -/
def valueArrays (img : Image) : Outcome ImageValues := do
  if img.beenPixelated.isSome && img.beenRead then
    let wEdges ← match img.wBins with
      | .edges xs => pure xs
      | .unset => throw (.noMember "Image" "w_bins")
      | _ => throw (.other .badType "object of type 'NoneType' has no len()")
    let hEdges ← match img.hBins with
      | .edges xs => pure xs
      | .unset => throw (.noMember "Image" "h_bins")
      | _ => throw (.other .badType "object of type 'NoneType' has no len()")
    let weights := if img.hasChannel then some (valueOf img.channelValue) else none
    let grids ← Pixels.ofEvents (valueOf img.widthValue) (valueOf img.heightValue) weights wEdges hEdges
    let cells := grids.foldl (fun acc g => g.foldl (fun acc r => acc ++ r.map Scalar.real) acc) []
    pure (.grids { dtype := .float64, shape := [grids.length, wEdges.length - 1, hEdges.length - 1],
                   data := cells.toArray })
  else
    pure (.pair (valueOf img.heightValue) (valueOf img.widthValue))

def values (img : Image) : Outcome Datum := do
  pure (← img.valueArrays).toDatum

def draw (img : Image) (args : List (String × Datum)) : Outcome Unit := do
  let get ← bindArguments "Image.show" ["as_point", "limits", "show_pixels", "grid", "norm"] [] args
  let asPoint := ((get "as_point").getD (.bool false)).truthy
  if img.pixelated && !asPoint then
    if img.beenRead then
      let _ ← img.values
      pure ()
    else throw (.noMember "tuple" "sum")
  else pure ()

def inject (img : Image) (height width : Tensor) (channel : Option Tensor)
    (subjets : Option Subjets) : Outcome Image := do
  let img := { img with heightValue := some height, widthValue := some width }
  let img ← match channel with
    | some c =>
      if img.hasChannel then pure { img with channelValue := some c }
      else throw (.noMember "NoneType" "_value")
    | none => pure img
  let img := match subjets with
    | some s => { img with subjets := some s }
    | none => img
  pure { img with beenRead := true }

end Image

end ColliderML
