import ColliderML.Dataset.Store
import ColliderML.Dataset.Split
import ColliderML.Cut.Read

/-!
# Datasets

A dataset gathers samples and targets from events, read batch by batch with
one target each, and may be split into training, test and validation parts.

Reading a batch reads the events into the set or the image, keeps the events
that every given cut passes, and adds their values as samples and one target
per sample. An image that is no longer good adds nothing; an image binned
gives one pixel grid per event, otherwise the heights and widths of the
points.

Splitting takes the shares of training, test and, if given, validation rows,
which must add up to one after being scaled by ten; it shuffles the rows by
the seed, and splits the validation rows from the training rows by the same
seed. The parts of an image dataset follow the image of the whole.

Saving writes the configuration, the samples and targets, and each part;
loading builds a dataset anew from the configuration and takes the samples
and targets at once or when first read out.
-/

namespace ColliderML

inductive PartName where
  | train
  | test
  | val
  deriving DecidableEq, Inhabited, Repr

namespace PartName

def key : PartName → String
  | .train => "train"
  | .test => "test"
  | .val => "val"

end PartName

/-- A dataset: its store, whether and by which seed it was split, and its parts. -/
structure Dataset where
  store : Store
  beenSplit : Datum := .bool false
  seed : Datum := .none
  train : Option Store := none
  test : Option Store := none
  val : Option Store := none
  deriving Inhabited

/-- A cut given to a read: a text, parsed when its turn comes, or a cut made
beforehand from a record. -/
inductive GivenCut where
  | text (s : String)
  | made (c : Cut)

namespace GivenCut

def ofDatum (table : AliasTable) (d : Datum) : Outcome GivenCut :=
  match d with
  | .str s => .ok (.text s)
  | d =>
    match d.field? "cut" with
    | some (.str s) => do pure (.made (← Cut.parse table s))
    | some v => .error (.noMember v.kindName "strip")
    | none => .error (.badRequest "a cut is a text or a record with a cut")

def passed (table : AliasTable) (ev : Events) : GivenCut → Outcome Tensor
  | .text s => do pure (← (← Cut.parse table s).read ev).passed
  | .made c => do pure (← c.read ev).passed

def mask (table : AliasTable) (ev : Events) (cuts : List GivenCut) : Outcome Tensor := do
  let vs ← cuts.mapM (passed table ev)
  match vs with
  | [] => throw (.other .badType "reduce() of empty iterable with no initial value")
  | v :: rest => rest.foldlM Tensor.and v

end GivenCut

def targetValue : Datum → Outcome Scalar
  | .int i => .ok (Scalar.cast .int32 (.int i))
  | .bool b => .ok (Scalar.cast .int32 (.bool b))
  | .float x => .ok (Scalar.cast .int32 (.real x))
  | .str t =>
    match t.trimAscii.toString.toInt? with
    | some i => .ok (Scalar.cast .int32 (.int i))
    | none => .error (.invalidInteger t)
  | d => .error (.other .badType
      ("int() argument must be a string, a bytes-like object or a real number, not '" ++ d.kindName ++ "'"))

def targetColumn (target : Datum) (n : Nat) : Outcome Tensor := do
  if n == 0 then return Tensor.ofList .int32 []
  let s ← targetValue target
  pure (Tensor.fill .int32 [n] s)

def tenfold (d : Datum) : Outcome (Float × Bool) :=
  match d with
  | .int i => .ok (Float.ofInt (i * 10), true)
  | .bool b => .ok (if b then 10 else 0, true)
  | .float x => .ok (x * 10, false)
  | d => .error (.unsupportedOperands "*" d.kindName "int")

namespace Dataset

def new (layout : Layout) : Dataset := { store := Store.new layout }

def part (ds : Dataset) : PartName → Option Store
  | .train => ds.train
  | .test => ds.test
  | .val => ds.val

def setPart (ds : Dataset) (p : PartName) (st : Option Store) : Dataset :=
  match p with
  | .train => { ds with train := st }
  | .test => { ds with test := st }
  | .val => { ds with val := st }

def view (ds : Dataset) (st : Store) : Store :=
  if st.sharesImage then { st with layout := ds.store.layout } else st

def takeSamples (ds : Dataset) : Dataset × Outcome Holding :=
  let (store, r) := ds.store.takeSamples
  ({ ds with store }, r)

def takeTargets (ds : Dataset) : Dataset × Outcome Tensor :=
  let (store, r) := ds.store.takeTargets
  ({ ds with store }, r)

def config (ds : Dataset) : Outcome Datum := ds.store.config ds.beenSplit ds.seed

def addValues (ds : Dataset) (fresh : Holding) (asList : Bool) (count : Nat) (target : Datum) :
    Dataset × Outcome Unit :=
  match ds.store.samples.add fresh asList with
  | .error e => (ds, .error e)
  | .ok samples =>
    let ds := { ds with store := { ds.store with samples } }
    match (do ds.store.targets.add (.array (← targetColumn target count)) false) with
    | .error e => (ds, .error e)
    | .ok targets => ({ ds with store := { ds.store with targets } }, .ok ())

/-- Reads a batch of events into the set or the image and gives the values it
adds, of the events that every cut passes, with whether they come as a list:
nothing when the image is no longer good. Gives the dataset with its image read. -/
def readValues (table : AliasTable) (ev : Events) (given : Option (List GivenCut)) (ds : Dataset) :
    Dataset × Outcome (Option (Holding × Bool)) :=
  let masked := fun (t : Tensor) => match given with
    | none => Except.ok t
    | some g => do t.maskRows (← GivenCut.mask table ev g)
  match ds.store.layout with
  | .set s => (ds, do pure (some (.array (← masked (← s.read ev)), false)))
  | .image img =>
    let (img, failure) := img.read table ev
    let ds := { ds with store := { ds.store with layout := .image img } }
    match failure with
    | some e => (ds, .error e)
    | none =>
      (ds, do
        let m ← given.mapM (GivenCut.mask table ev)
        let fresh ← match m, ← img.valueArrays with
          | none, .grids t => pure (Holding.array t, false)
          | none, .pair h w => pure (.pair h w, false)
          | some m, .grids t => pure (.array (← t.maskRows m), false)
          | some m, .pair h w => pure (.pair (← h.maskRows m) (← w.maskRows m), true)
        pure (if img.status.truthy then some fresh else none))

def read (table : AliasTable) (ev : Events) (target : Datum) (cuts : Option (List Datum))
    (ds : Dataset) : Dataset × Outcome Unit :=
  match cuts.mapM (fun cs => cs.mapM (GivenCut.ofDatum table)) with
  | .error e => (ds, .error e)
  | .ok given =>
    match ds.readValues table ev given with
    | (ds, .error e) => (ds, .error e)
    | (ds, .ok none) => (ds, .ok ())
    | (ds, .ok (some (values, asList))) => ds.addValues values asList values.count target

def partOf (ds : Dataset) (samples targets : Tensor) : Store :=
  let st := Store.new ds.store.layout
  { st with samples := Held.ofArray samples, targets := Held.ofArray targets,
            sharesImage := match ds.store.layout with
              | .image _ => true
              | .set _ => false }

/-- Splits the rows into training and test rows, and the training rows again
into training and validation rows when a validation share is given. -/
def split (train test : Datum) (val : Option Datum) (seed : Int) (ds : Dataset) :
    Dataset × Outcome Unit :=
  match (do pure (← tenfold train, ← tenfold test)) with
  | .error e => (ds, .error e)
  | .ok ((tr, trWhole), (te, _)) =>
    let (ds, samples) := ds.takeSamples
    match samples with
    | .error e => (ds, .error e)
    | .ok samples =>
      let (ds, targets) := ds.takeTargets
      match targets with
      | .error e => (ds, .error e)
      | .ok targets =>
        let ds := { ds with seed := .int seed }
        let first : Outcome Split.Halves := do
          if val.isNone && tr + te != 10 then throw (.other .badValue "train + test must be 1")
          Split.halves seed (← samples.toArray) targets (te / 10)
        match first with
        | .error e => (ds, .error e)
        | .ok h =>
          match val with
          | none =>
            ({ ds with train := some (ds.partOf h.trainSamples h.trainTargets),
                       test := some (ds.partOf h.testSamples h.testTargets),
                       beenSplit := .bool true }, .ok ())
          | some v =>
            let second : Outcome Split.Halves := do
              let (va, vaWhole) ← tenfold v
              if tr + te + va != 10 then throw (.other .badValue "train + test + val must be 1")
              if tr + va == 0 then
                throw (if trWhole && vaWhole then .zeroDivision
                  else .other .divisionByZero "float division by zero")
              Split.halves seed h.trainSamples h.trainTargets (va / (tr + va))
            match second with
            | .error e => (ds, .error e)
            | .ok g =>
              ({ ds with val := some (ds.partOf g.testSamples g.testTargets),
                         train := some (ds.partOf g.trainSamples g.trainTargets),
                         test := some (ds.partOf h.testSamples h.testTargets),
                         beenSplit := .bool true }, .ok ())

def fromConfig (table : AliasTable) (ds : Dataset) : Outcome Dataset := do
  let _ ← ds.config
  let layout ← ds.store.layout.rebuilt table
  pure { store := Store.new layout, beenSplit := ds.beenSplit, seed := ds.seed }

/-- Saves a part as the dataset sees it: the part after, and what describes
its events with what was saved. -/
def savePart (ds : Dataset) (st : Store) : Store × Outcome (Layout × Saved) :=
  let v := ds.view st
  let (v, r) := v.save (.bool false) .none
  ({ v with layout := st.layout }, do pure (v.layout, ← r))

def saveNext (acc : Dataset × Outcome (List (PartName × Layout × Saved))) (p : PartName) :
    Dataset × Outcome (List (PartName × Layout × Saved)) :=
  match acc.2 with
  | .error e => (acc.1, .error e)
  | .ok done =>
    match acc.1.part p with
    | none =>
      if p == .val then acc else (acc.1, .error (.noMember "NoneType" "save"))
    | some st =>
      let (st, r) := acc.1.savePart st
      let ds := acc.1.setPart p (some st)
      match r with
      | .error e => (ds, .error e)
      | .ok (layout, f) => (ds, .ok (done ++ [(p, layout, f)]))

def saveParts (ds : Dataset) : Dataset × Outcome (List (PartName × Layout × Saved)) :=
  [PartName.train, .test, .val].foldl saveNext (ds, .ok [])

def loadPart (table : AliasTable) (lazy : Bool) (acc : Dataset) (e : PartName × Layout × Saved) :
    Outcome Dataset := do
  let layout ← e.2.1.rebuilt table
  pure (acc.setPart e.1 (some (Store.load layout lazy e.2.2)))

def saveLoad (table : AliasTable) (lazy : Bool) (ds : Dataset) : Dataset × Outcome Dataset :=
  let (store, top) := ds.store.save ds.beenSplit ds.seed
  let ds := { ds with store }
  match top with
  | .error e => (ds, .error e)
  | .ok f =>
    let (ds, parts) := if ds.beenSplit.truthy then ds.saveParts else (ds, .ok [])
    match parts with
    | .error e => (ds, .error e)
    | .ok parts =>
      (ds, do
        let layout ← ds.store.layout.rebuilt table
        let loaded : Dataset := { store := Store.load layout lazy f, beenSplit := ds.beenSplit,
                                  seed := ds.seed }
        parts.foldlM (loadPart table lazy) loaded)

end Dataset

end ColliderML
