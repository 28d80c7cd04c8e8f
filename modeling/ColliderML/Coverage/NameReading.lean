import ColliderML.Coverage.Sources
import ColliderML.PhysicsObject.Basic

/-!
# Statements run by reading physics-object names

Parsing a name tries the recognisers in order (single, collective, nested,
multiple) up to the first that accepts it, then runs the builder of that
kind. A nested object builds its main and sub parts from their texts, and a
multiple object builds each member, recognising it first. Reading an object's
name, configuration, slices, branch and constructor text runs the accessors of
the object and of its parts, each in its own file.

The naming benchmark also compares objects with objects and with texts, shows
and rebuilds them from their configurations, tests their kinds against lists of
kinds, and offers texts that every builder refuses; `checkStatements` are the
statements those checks run beyond the ones reading the names runs.
-/

namespace ColliderML.Coverage

namespace NameReading

def parserFile : String := "hml/physics_objects/__init__.py"

def singleFile : String := "hml/physics_objects/single.py"

def collectiveFile : String := "hml/physics_objects/collective.py"

def nestedFile : String := "hml/physics_objects/nested.py"

def multipleFile : String := "hml/physics_objects/multiple.py"

def objectFile : String := "hml/physics_objects/physics_object.py"

def singleTest : List Statement := statementsAt singleFile [10, 13]

def collectiveTest : List Statement := statementsAt collectiveFile [10, 13]

def nestedTest : List Statement := statementsAt nestedFile [12, 15]

def buildSingle : List Statement := statementsAt singleFile [25, 26, 27, 20, 21]

def buildCollective : List Statement :=
  statementsAt collectiveFile [31, 32, 33, 34, 35, 37, 25, 26, 27]

/-- Building one part of a nested object: a single one if its text has that
form, a collective one otherwise. -/
def nestedPart : PhysicsObject → List Statement
  | .single .. => statementsAt nestedFile [30, 33] ++ singleTest ++ statementsAt nestedFile [34] ++
      buildSingle
  | _ => statementsAt nestedFile [30, 33] ++ singleTest ++ statementsAt nestedFile [37] ++
      buildCollective

def buildNested (main sub : PhysicsObject) : List Statement :=
  statementsAt nestedFile [41, 42, 43, 26, 27] ++ nestedPart main ++ nestedPart sub

def buildMember : PhysicsObject → List Statement
  | .single .. => statementsAt multipleFile [44, 47] ++ singleTest ++ statementsAt multipleFile [48] ++
      buildSingle
  | .collective .. => statementsAt multipleFile [44, 47] ++ singleTest ++
      statementsAt multipleFile [50] ++ collectiveTest ++ statementsAt multipleFile [51] ++
      buildCollective
  | .nested main sub => statementsAt multipleFile [44, 47] ++ singleTest ++
      statementsAt multipleFile [50] ++ collectiveTest ++ statementsAt multipleFile [54] ++
      buildNested main sub
  | .multiple _ => statementsAt multipleFile [44, 47] ++ singleTest ++
      statementsAt multipleFile [50] ++ collectiveTest ++ statementsAt multipleFile [54]

def buildMultiple (all : List PhysicsObject) : List Statement :=
  statementsAt multipleFile [60, 61, 62, 39, 42, 43, 56] ++ all.flatMap buildMember

/-- Parsing the name of an object: the recognisers tried up to its kind, then
its builder. A multiple name is built once to recognise it and once more. -/
def parse : PhysicsObject → List Statement
  | .single .. => statementsAt parserFile [21] ++ singleTest ++ statementsAt parserFile [22] ++
      buildSingle
  | .collective .. => statementsAt parserFile [21] ++ singleTest ++ statementsAt parserFile [24] ++
      collectiveTest ++ statementsAt parserFile [25] ++ buildCollective
  | .nested main sub => statementsAt parserFile [21] ++ singleTest ++
      statementsAt parserFile [24] ++ collectiveTest ++ statementsAt parserFile [27] ++ nestedTest ++
      statementsAt parserFile [28] ++ buildNested main sub
  | .multiple all => statementsAt parserFile [21] ++ singleTest ++
      statementsAt parserFile [24] ++ collectiveTest ++ statementsAt parserFile [27] ++ nestedTest ++
      statementsAt parserFile [30] ++ statementsAt multipleFile [14, 15, 16] ++ buildMultiple all ++
      statementsAt multipleFile [20, 21] ++ statementsAt parserFile [31] ++ buildMultiple all

def boundLines : Option Int → Option Int → List Nat
  | none, none => [60]
  | none, some _ => [62, 63]
  | some _, none => [62, 65, 66]
  | some _, some _ => [62, 65, 69]

def name : PhysicsObject → List Statement
  | .single .. => statementsAt singleFile [45, 37, 33]
  | .collective _ start stop => statementsAt collectiveFile ([59] ++ boundLines start stop ++ [51, 43, 47])
  | .nested main sub => statementsAt nestedFile [65, 49, 53] ++ name main ++ name sub
  | .multiple all => statementsAt multipleFile [80, 68] ++ all.flatMap name

def config : PhysicsObject → List Statement
  | .single .. => statementsAt singleFile [49, 37, 33]
  | .collective .. => statementsAt collectiveFile [73, 51, 43, 47]
  | .nested main sub => statementsAt nestedFile [69, 49, 53] ++ name main ++ name sub
  | .multiple all => statementsAt multipleFile [84, 68] ++ all.flatMap name

def slices : PhysicsObject → List Statement
  | .single .. => statementsAt singleFile [41, 33]
  | .collective .. => statementsAt collectiveFile [55, 43, 47]
  | .nested main sub => statementsAt nestedFile [61, 49, 53] ++ slices main ++ slices sub
  | .multiple all => statementsAt multipleFile [76, 68] ++ all.flatMap slices

def branch : PhysicsObject → List Statement
  | .single .. => statementsAt singleFile [37]
  | .collective .. => statementsAt collectiveFile [51]
  | .nested main sub => statementsAt nestedFile [57, 49, 53] ++ branch main ++ branch sub
  | .multiple all => statementsAt multipleFile [72, 68] ++ all.flatMap branch

/-- Writing the constructor text of an object: its configuration, with text
values quoted and other values shown. Single and collective configurations
hold both kinds, a nested one only texts, a multiple one only a list. -/
def text (o : PhysicsObject) : List Statement :=
  let values := match o with
    | .single .. | .collective .. => [19, 20, 22]
    | .nested .. => [19, 20]
    | .multiple _ => [19, 22]
  statementsAt objectFile ([17, 18, 23, 25] ++ values) ++ config o

def readObject (o : PhysicsObject) : List Statement :=
  parse o ++ name o ++ config o ++ slices o ++ branch o ++ text o

/-- The statements that the naming benchmark's own checks run beyond reading
names: comparisons, plain text, rebuilding from a configuration, the lookup of
a kind by its name, kind tests of objects, and the refusals of every builder. -/
def checkStatements : List Statement :=
  statementsAt parserFile [16, 34] ++ statementsAt singleFile [11, 29] ++
  statementsAt collectiveFile [11, 39] ++ statementsAt nestedFile [13, 45] ++
  statementsAt multipleFile [17, 18, 23, 28, 29, 30, 32, 64] ++
  statementsAt objectFile [8, 9, 11, 14, 49]

end NameReading

def nameReadingStatements (objects : List PhysicsObject) : List Statement :=
  objects.foldl (fun acc o => addStatements acc (NameReading.readObject o))
    (addStatements [] NameReading.checkStatements)

end ColliderML.Coverage
