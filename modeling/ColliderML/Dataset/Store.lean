import ColliderML.Dataset.Held
import ColliderML.Representation.Image.Read
import ColliderML.Representation.Set

/-!
# Stores of samples and targets

A store keeps what a dataset learned from events: what describes the events
(a set of observables, or an image), the samples and the targets, and, for a
store loaded from a file without reading it at once, the samples and targets
of that file.

Reading samples or targets out of a store may first take them from the file:

- a store of a set takes the file's samples when it holds no samples and has
  not been read, and likewise its targets; it counts as read once it holds
  both samples and targets;
- a store of an image loaded without reading takes the file's samples (or
  targets) every time they are read out, until both hold numbers, when it
  counts as read.

The samples of an image store are single-precision pixel grids when the
image is binned; otherwise they are the first two entries of what it holds,
heights and widths, each with its two innermost axes merged when it has
three or more. Targets are read out as 32-bit integers for an image store
and as held for a set store.
-/

namespace ColliderML

inductive Layout where
  /-- A set of observables: one row of features per event. -/
  | set (s : ObservableSet)
  /-- An image: heights and widths of points, binned or not. -/
  | image (img : Image)
  deriving Inhabited

namespace Layout

def rebuilt (table : AliasTable) : Layout → Outcome Layout
  | .set s => do pure (.set (← s.rebuild table))
  | .image img => do pure (.image (← img.rebuild))

def config : Layout → Outcome Datum
  | .set s => s.config
  | .image img => img.config

end Layout

/-- The samples and targets written to a file. -/
structure Saved where
  samples : Tensor
  targets : Tensor
  deriving Inhabited

/-- Samples and targets learned from events, and what describes the events. -/
structure Store where
  layout : Layout
  samples : Held
  targets : Held := Held.empty
  /-- The file loaded without reading it, if any. -/
  saved : Option Saved := none
  /-- Whether it has been read: unknown until loaded for an image store. -/
  beenRead : Option Bool
  /-- Whether its image is its parent dataset's, which it follows. -/
  sharesImage : Bool := false
  deriving Inhabited

namespace Store

def new (layout : Layout) : Store :=
  match layout with
  | .set _ => { layout, samples := Held.empty, beenRead := some false }
  | .image img =>
    { layout, samples := if img.pixelated then Held.empty else Held.emptyPair, beenRead := none }

def className (st : Store) : String :=
  match st.layout with
  | .set _ => "SetDataset"
  | .image _ => "ImageDataset"

def settle (st : Store) (ofTargets : Bool) : Store :=
  let held := if ofTargets then st.targets else st.samples
  let st := match st.saved with
    | some f =>
      if held.value.length == 0 && st.beenRead != some true then
        if ofTargets then { st with targets := Held.ofArray f.targets }
        else { st with samples := Held.ofArray f.samples }
      else st
    | none => st
  if st.samples.value.length > 0 && st.targets.value.length > 0 then { st with beenRead := some true }
  else st

def reload (st : Store) (ofTargets : Bool) : Store :=
  match st.beenRead, st.saved with
  | some false, some f =>
    let st := if ofTargets then { st with targets := Held.ofArray f.targets }
      else { st with samples := Held.ofArray f.samples }
    if st.samples.value.size > 0 && st.targets.value.size > 0 then { st with beenRead := some true }
    else st
  | _, _ => st

def imageAxis (t : Tensor) : Tensor := if t.ndim == 1 then t else t.mergeInner

def takeSamples (st : Store) : Store × Outcome Holding :=
  match st.layout with
  | .set _ =>
    let st := st.settle false
    (st, .ok st.samples.value)
  | .image img =>
    let st := st.reload false
    if img.pixelated then
      (st, do pure (.array ((← st.samples.value.toArray).astype .float32)))
    else
      (st, do
        let h ← st.samples.value.entry 0
        let w ← st.samples.value.entry 1
        pure (.pair (imageAxis h) (imageAxis w)))

def takeTargets (st : Store) : Store × Outcome Tensor :=
  match st.layout with
  | .set _ =>
    let st := st.settle true
    (st, st.targets.value.toArray)
  | .image _ =>
    let st := st.reload true
    (st, do pure ((← st.targets.value.toArray).astype .int32))

def features (st : Store) : Outcome Datum := do
  match st.layout with
  | .set s => pure (Datum.ofStrings (← s.names))
  | .image img =>
    let channel ← if img.hasChannel then do pure (Datum.str (← img.channel.name)) else pure .none
    pure (.dict [("height", .str (← img.height.name)), ("width", .str (← img.width.name)),
      ("channel", channel)])

def config (st : Store) (beenSplit seed : Datum) : Outcome Datum := do
  let base ← st.layout.config
  pure (.dict (base.fields ++ [("class_name", .str st.className), ("been_split", beenSplit),
    ("seed", seed)]))

/-- Saves the store: checks its configuration and reads out its samples and
targets, which must each form one array. Gives the store after. -/
def save (st : Store) (beenSplit seed : Datum) : Store × Outcome Saved :=
  match st.config beenSplit seed with
  | .error e => (st, .error e)
  | .ok _ =>
    let (st, samples) := st.takeSamples
    match samples.bind Holding.toArray with
    | .error e => (st, .error e)
    | .ok s =>
      let (st, targets) := st.takeTargets
      (st, do pure { samples := s, targets := ← targets })

/-- Loads a saved store into a fresh one of a layout: at once, marking it
read, or else keeping the file to read from later. -/
def load (layout : Layout) (lazy : Bool) (f : Saved) : Store :=
  let st := new layout
  if lazy then { st with saved := some f, beenRead := some false }
  else { st with samples := Held.ofArray f.samples, targets := Held.ofArray f.targets,
                 beenRead := some true }

end Store

end ColliderML
