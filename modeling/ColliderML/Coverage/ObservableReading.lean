import ColliderML.Coverage.NameReading
import ColliderML.Observable.Basic

/-!
# Statements run by building and reading observables

Building an observable from its name goes through the parser of names, which
looks the class name up among the aliases or reads it as a τ name, then through
the class's own constructor and the shared one, which parses the physics object
from its text (or takes the object given), and checks it against the kinds the
class supports.

Reading runs the class's reader. The shared reader takes the field named after
the class when the events hold it (`stored`) and derives it from the branch's
momenta otherwise, then cuts each level of entries to the object's slices,
padding the last level when some event holds fewer entries than the slice asks
for. Sizes read the branch's count, τ values the branch's τ array, distances and
masses read their members. Shape, type and name are read off the value and
the object.
-/

namespace ColliderML.Coverage

namespace ObservableReading

open NameReading

def parserFile : String := "hml/observables/__init__.py"

def sharedFile : String := "hml/observables/observable.py"

def classFile (k : ObservableKind) : String :=
  String.intercalate "/" (k.modulePath.splitOn ".") ++ ".py"

/-- Where the reader finds a value and how many entries each event holds in
every branch of the events read. -/
structure Events where
  /-- The lower-case fields the branches hold under the class's own name. -/
  fields : List String
  /-- The entries of every branch in each event. -/
  entries : Nat

def ownConstructor : ObservableKind → List Nat
  | .px => [13, 14]
  | .py => [26, 27]
  | .pz => [39, 40]
  | .energy => [52, 53]
  | .pt => [65, 66]
  | .eta => [78, 79]
  | .phi => [91, 92]
  | .mass => [104, 105]
  | .angularDistance => [18, 19, 20]
  | .charge | .size | .bTag => [13, 14]
  | .tauTag => [26, 27]
  | .invariantMass => [22, 23]
  | .nSubjettiness | .tauN => [17, 18, 19]
  | .nSubjettinessRatio | .tauMN => [92, 93, 94, 95, 97, 98]
  | .generic => []

def takesGroups (k : ObservableKind) : Bool :=
  match k.supported with
  | some kinds => kinds.contains .multiple
  | none => false

def sharedConstructor (k : ObservableKind) (o : PhysicsObject) (fromText : Bool) : List Statement :=
  statementsAt sharedFile ([19, 20, 21, 22] ++ (if fromText then [33, 36, 37] else [33, 34]) ++
    [43, 48, 51, 52, 53, 56, 58, 61, 64, 67, 92, 100] ++ (if takesGroups k then [75] else [68])) ++
  (if fromText then NameReading.parse o else []) ++
  (if takesGroups k then
    statementsAt multipleFile [14, 20, 23, 28, 68] ++
      (match o with
       | .multiple all => all.flatMap (fun _ => statementsAt multipleFile [29])
       | _ => []) ++ statementsAt multipleFile [32]
   else [])

def tauConstructor (o : PhysicsObject) (fromText : Bool) : List Statement :=
  statementsAt (classFile .tauN) (ownConstructor .tauN) ++ sharedConstructor .tauN o fromText

def constructor (k : ObservableKind) (o : PhysicsObject) (fromText : Bool) : List Statement :=
  statementsAt (classFile k) (ownConstructor k) ++ sharedConstructor k o fromText ++
  (match k with
   | .angularDistance => statementsAt multipleFile [68]
   | .nSubjettinessRatio | .tauMN => tauConstructor o fromText ++ tauConstructor o fromText
   | _ => [])

/-- Building an observable from its name: the name parser's way to the class
(an alias, or a τ name of one or two digits), the class's way from a name, and
its constructor. -/
def build (k : ObservableKind) (aliased : Bool) (o : PhysicsObject) : List Statement :=
  let parser :=
    if aliased then [29, 32, 33, 34]
    else match k with
      | .tauMN => [29, 32, 36, 40, 41, 42]
      | _ => [29, 32, 36, 37, 38]
  let fromName := match k with
    | .angularDistance => statementsAt (classFile k) [47, 48, 50]
    | .tauN => statementsAt (classFile k) [69, 70, 72, 73, 74, 78]
    | .tauMN => statementsAt (classFile k) [121, 122, 124, 125, 126, 130, 131, 135]
    | _ => statementsAt sharedFile [179, 180, 182, 183, 184, 186]
  statementsAt parserFile parser ++ fromName ++ constructor k o true

def value : List Statement := statementsAt sharedFile [104, 107, 108]

def sliceBounds : Slice → Option Int × Option Int
  | .range a b => (a, b)
  | .group _ => (none, none)

/-- Cutting one level of entries to a slice: nothing more for an open slice,
padding for the last level when the events hold fewer entries than it asks
for, and counting the missing entries otherwise. -/
def cutLines (ev : Events) (last : Bool) (s : Slice) (padded : List Nat) (counted : List Nat) :
    List Nat :=
  match sliceBounds s with
  | (_, none) => []
  | (a, some b) =>
    let wanted := b - a.getD 0
    if last && decide ((ev.entries : Int) < wanted) then padded else counted

def sharedRead (k : ObservableKind) (ev : Events) (o : PhysicsObject) : List Statement :=
  let flat := match o with
    | .single .. | .collective .. => true
    | _ => false
  let stored := ev.fields.contains (Text.lower k.className)
  let source :=
    if flat then [138] ++ (if stored then [139, 140] else [143, 144]) else [147, 148]
  let levels := o.slices
  let cuts := (levels.zipIdx).flatMap (fun (s, i) =>
    [156] ++ (match sliceBounds s with
      | (_, none) => []
      | _ => [157, 158, 160]) ++ cutLines ev (i + 1 == levels.length) s [163] [166, 167])
  statementsAt sharedFile ([127, 130, 131, 132, 134, 137] ++ source ++
    (if levels.length == 1 then [150, 151] else [150, 153]) ++ [155] ++ cuts ++
    [173, 175, 92, 100]) ++
  NameReading.branch o ++ NameReading.slices o ++ statementsAt singleFile [10, 11] ++
  (match o with
   | .single .. => []
   | _ => statementsAt collectiveFile [10, 11])

def tauRead (ev : Events) (o : PhysicsObject) : List Statement :=
  let levels := o.slices
  let cuts := (levels.zipIdx).flatMap (fun (s, i) =>
    [35] ++ (match sliceBounds s with
      | (_, none) => []
      | _ => [36, 37, 39]) ++ cutLines ev (i + 1 == levels.length) s [42] [45, 46])
  statementsAt (classFile .tauN) ([22, 23, 24, 26, 27, 28, 29, 34] ++ cuts ++ [52, 54]) ++
  NameReading.branch o ++ NameReading.slices o

def members : PhysicsObject → List PhysicsObject
  | .multiple all => all
  | o => [o]

def read (k : ObservableKind) (ev : Events) (o : PhysicsObject) : List Statement :=
  match k with
  | .size => statementsAt (classFile k) [17, 18, 20, 21, 22, 26, 28] ++ NameReading.branch o
  | .nSubjettiness | .tauN => tauRead ev o
  | .nSubjettinessRatio | .tauMN =>
    statementsAt (classFile k) [101, 102, 104, 106] ++ tauRead ev o ++ tauRead ev o ++ value
  | .angularDistance =>
    let inner := (members o).flatMap (fun m =>
      [ObservableKind.eta, .phi].flatMap (fun c =>
        statementsAt (classFile c) (ownConstructor c) ++ sharedConstructor c m false ++
        sharedRead c ev m ++ value))
    statementsAt (classFile k) [25, 26, 28, 29, 31, 35, 39, 40, 41, 43] ++
      statementsAt multipleFile [68] ++ inner
  | .invariantMass =>
    statementsAt (classFile k) [26, 28, 29, 30, 31, 32, 34, 35, 37] ++ statementsAt multipleFile [68] ++
      (members o).flatMap (fun m => NameReading.branch m ++ NameReading.slices m)
  | k => sharedRead k ev o

def missingSize : List Statement :=
  statementsAt (classFile .size) [17, 18, 20, 24] ++ statementsAt collectiveFile [51]

def describe (o : PhysicsObject) : List Statement :=
  statementsAt sharedFile [194, 195, 199, 200, 114, 115, 96, 92] ++ value ++ NameReading.name o

def buildReadDescribe (k : ObservableKind) (aliased : Bool) (ev : Events) (o : PhysicsObject) :
    List Statement :=
  build k aliased o ++ read k ev o ++ describe o

end ObservableReading

end ColliderML.Coverage
