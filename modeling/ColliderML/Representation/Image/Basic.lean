import ColliderML.Observable.Arg
import ColliderML.Observable.Build
import ColliderML.Representation.Image.Bins
import ColliderML.Event.Momentum

/-!
Images of events: two observables give a point's height and width, and a third,
if any, its weight. Operations on an image (finding subjets, moving the origin,
turning the axes, binning into pixels) are registered before any event is read,
in order, with their arguments as given; reading then replays them.

Binning computes the edges at once: it marks the image as binned first, then
the height's edges, then the width's, so a failure leaves what was done before
it.

The configuration holds the three observables' class names and configurations,
the registered operations, whether the image is binned, and the edges of a
binned image; an image is rebuilt from it by building each observable again
from its configuration.
-/

namespace ColliderML

/-- An operation on an image, with its arguments as given. -/
inductive ImageStep where
  | withSubjets (constituents algorithm r minPt : Datum)
  | translate (origin : Datum)
  | rotate (axis orientation : Datum)
  | pixelate (size range : Datum)
  deriving Inhabited

namespace ImageStep

def name : ImageStep → String
  | .withSubjets .. => "with_subjets"
  | .translate _ => "translate"
  | .rotate .. => "rotate"
  | .pixelate .. => "pixelate"

def arguments : ImageStep → List (String × Datum)
  | .withSubjets c a r m => [("constituents", c), ("algorithm", a), ("r", r), ("min_pt", m)]
  | .translate o => [("origin", o)]
  | .rotate a o => [("axis", a), ("orientation", o)]
  | .pixelate s r => [("size", s), ("range", r)]

def toDatum (s : ImageStep) : Datum := .list [.str s.name, .dict s.arguments]

end ImageStep

/-- Subjets of events: arrays by field name. The Cartesian components `px`,
`py`, `pz` and `e` that are not given follow from `pt`, `eta`, `phi` and `mass`
when all four are given. -/
structure Subjets where
  fields : List (String × Tensor)
  deriving Inhabited

namespace Subjets

def field (s : Subjets) (name : String) : Outcome Tensor :=
  match s.fields.lookup name with
  | some t => .ok t
  | none =>
    let get := fun (k : String) => s.fields.lookup k
    match get "pt", get "eta", get "phi", get "mass" with
    | some pt, some eta, some phi, some mass =>
      if ["px", "py", "pz", "e"].contains name then Momenta.attr { pt, eta, phi, mass } name
      else .error (.noField name)
    | _, _, _, _ => .error (.noField name)

def length (s : Subjets) : Nat :=
  match s.fields.head? with
  | some (_, t) => t.length
  | none => 0

end Subjets

structure Image where
  height : ObservableArg
  width : ObservableArg
  /-- The weight; nothing when absent. -/
  channel : ObservableArg := .value .none
  /-- Whether the image is binned; nothing until it is or once read again. -/
  beenPixelated : Option Bool := none
  beenRead : Bool := false
  /-- Operations waiting for a read. -/
  registered : List ImageStep := []
  /-- Operations done on read events. -/
  recorded : List ImageStep := []
  /-- Whether the image is still good; cleared when a subjet it needs is missing. -/
  status : Datum := .bool true
  hBins : Bins := .unset
  wBins : Bins := .unset
  /-- The values of the height, width and weight, as the operations left them. -/
  heightValue : Option Tensor := none
  widthValue : Option Tensor := none
  channelValue : Option Tensor := none
  /-- The events read last. -/
  events : Option Events := none
  /-- The subjets found in the events, or given. -/
  subjets : Option Subjets := none
  /-- The height and width of the subjet the image was moved to. -/
  origin : Option (Tensor × Tensor) := none
  deriving Inhabited

namespace ObservableKind

def ofClassName? (name : String) : Option ObservableKind :=
  (ObservableKind.generic :: ObservableKind.all).find? (·.className == name)

end ObservableKind

namespace Image

def hasChannel (img : Image) : Bool :=
  match img.channel with
  | .value .none => false
  | _ => true

def steps (img : Image) : List ImageStep :=
  if img.beenRead then img.recorded else img.registered

def pixelated (img : Image) : Bool := img.beenPixelated == some true

def config (img : Image) : Outcome Datum := do
  let h ← img.height.classConfig
  let w ← img.width.classConfig
  let c ← if img.hasChannel then img.channel.classConfig else pure .none
  let wb ← if img.pixelated then img.wBins.toConfig "w_bins" else pure .none
  let hb ← if img.pixelated then img.hBins.toConfig "h_bins" else pure .none
  pure (.dict [("height_config", h), ("width_config", w), ("channel_config", c),
    ("registered_methods", .list (img.steps.map ImageStep.toDatum)),
    ("been_pixelated", match img.beenPixelated with
      | some b => .bool b
      | none => .none),
    ("w_bins", wb), ("h_bins", hb)])

def register (img : Image) (s : ImageStep) : Image :=
  { img with registered := img.registered ++ [s] }

/-- Marks the image as binned and computes the edges of its two axes: the
failure, if any, comes with the image as it left it. -/
def binEdges (img : Image) (size range : Datum) : Image × Option Error :=
  let img := { img with beenPixelated := some true }
  match Bins.ofRange range size 0 with
  | .error e => (img, some e)
  | .ok hb =>
    let img := { img with hBins := hb }
    match Bins.ofRange range size 1 with
    | .error e => (img, some e)
    | .ok wb => ({ img with wBins := wb }, none)

def rebuildAxis (a : ObservableArg) : Outcome ObservableArg :=
  match a with
  | .observable o =>
    match ObservableKind.ofClassName? o.kind.className with
    | some kind => do
      let o ← Observable.ofConfig kind o.config.fields
      pure (.observable o)
    | none => .error (.noModuleMember "hml.observables" a.className)
  | a => .error (.noModuleMember "hml.observables" a.className)

def rebuild (img : Image) : Outcome Image := do
  let _ ← img.config
  let height ← rebuildAxis img.height
  let width ← rebuildAxis img.width
  let channel ← if img.hasChannel then rebuildAxis img.channel else pure (.value .none)
  let hBins := if img.pixelated then img.hBins.restore else .none
  let wBins := if img.pixelated then img.wBins.restore else .none
  let rebuilt : Image := { height := height, width := width, channel := channel }
  pure { rebuilt with
    registered := img.steps
    beenPixelated := img.beenPixelated
    hBins := hBins
    wBins := wBins }

end Image

end ColliderML
