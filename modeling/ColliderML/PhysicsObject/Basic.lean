import ColliderML.Error
import ColliderML.Text.Lower

/-!
Physics objects: what an analysis selects from the branches of an event.

A *single* object is one entry of a branch (the jet at index 0), a *collective*
one is a slice of a branch (jets 1 to 3, or all jets), a *nested* one selects
inside the entries of another object (the constituents of the leading jet), and
a *multiple* one is a list of objects taken together (two jets for a mass).

Each object has a canonical name (`jet0`, `jet1:3`, `jet0.constituents`,
`jet0,jet1`), the branch it reads, the slices it takes at each level, and a
configuration record from which it can be built again.
-/

namespace ColliderML

inductive PhysicsObject where
  /-- One entry of a branch. -/
  | single (branch : String) (index : Int)
  /-- The entries of a branch from start (inclusive) to stop (exclusive), each bound optional. -/
  | collective (branch : String) (start stop : Option Int)
  /-- The sub-object selected inside the entries of the main object. -/
  | nested (main sub : PhysicsObject)
  /-- Several objects taken together. -/
  | multiple (all : List PhysicsObject)
  deriving Inhabited, Repr

/-- The branch an object reads: a branch name, or one per member of a multiple object. -/
inductive Branch where
  | name (s : String)
  | group (items : List Branch)
  deriving Inhabited, Repr

/-- A slice of a level of entries, or the slices of each member of a multiple object. -/
inductive Slice where
  | range (start stop : Option Int)
  | group (items : List Slice)
  deriving Inhabited, Repr

namespace Branch

mutual
def text : Branch → String
  | .name s => s
  | .group items => "[" ++ literals items ++ "]"

def literal : Branch → String
  | .name s => quoteText s
  | .group items => "[" ++ literals items ++ "]"

def literals : List Branch → String
  | [] => ""
  | [b] => literal b
  | b :: rest => literal b ++ ", " ++ literals rest
end

def toDatum : Branch → Datum
  | .name s => .str s
  | .group items => .list (items.map toDatum)

end Branch

def Slice.toDatum : Slice → Datum
  | .range a b => .list [Datum.ofIntOption a, Datum.ofIntOption b]
  | .group items => .list (items.map Slice.toDatum)

namespace PhysicsObject

def kind : PhysicsObject → ObjectClass
  | .single .. => .single
  | .collective .. => .collective
  | .nested .. => .nested
  | .multiple _ => .multiple

def collectiveName (branch : String) : Option Int → Option Int → String
  | none, none => branch
  | none, some stop => branch ++ ":" ++ toString stop
  | some start, none => branch ++ toString start ++ ":"
  | some start, some stop => branch ++ toString start ++ ":" ++ toString stop

def name : PhysicsObject → String
  | .single b i => b ++ toString i
  | .collective b start stop => collectiveName b start stop
  | .nested main sub => main.name ++ "." ++ sub.name
  | .multiple all => ",".intercalate (all.map name)

mutual
def branch : PhysicsObject → Branch
  | .single b _ => .name b
  | .collective b _ _ => .name b
  | .nested main sub => .name (main.branch.text ++ "." ++ sub.branch.text)
  | .multiple all => .group (branches all)

def branches : List PhysicsObject → List Branch
  | [] => []
  | o :: rest => o.branch :: branches rest
end

mutual
def slices : PhysicsObject → List Slice
  | .single _ i => [.range (some i) (some (i + 1))]
  | .collective _ start stop => [.range start stop]
  | .nested main sub => main.slices ++ sub.slices
  | .multiple all => memberSlices all

def memberSlices : List PhysicsObject → List Slice
  | [] => []
  | o :: rest => .group o.slices :: memberSlices rest
end

@[simp] theorem branches_eq_map (all : List PhysicsObject) : branches all = all.map branch := by
  induction all with
  | nil => rfl
  | cons o rest ih => simp [branches, ih]

@[simp] theorem memberSlices_eq_map (all : List PhysicsObject) :
    memberSlices all = all.map (fun o => .group o.slices) := by
  induction all with
  | nil => rfl
  | cons o rest ih => simp [memberSlices, ih]

def config : PhysicsObject → Datum
  | .single b i => .dict [("branch", .str b), ("index", .int i)]
  | .collective b start stop =>
    .dict [("branch", .str b), ("start", Datum.ofIntOption start), ("stop", Datum.ofIntOption stop)]
  | .nested main sub => .dict [("main", .str main.name), ("sub", .str sub.name)]
  | .multiple all => .dict [("all", Datum.ofStrings (all.map name))]

def sameName (a : PhysicsObject) (b : String) : Bool := Text.lower a.name == Text.lower b

end PhysicsObject

/--
The constructor text of a configuration: the class name and each field as
key=value, text values in single quotes and other values by their display.
-/
def constructorText (cls : String) (config : Datum) : String :=
  let part := fun (kv : String × Datum) =>
    match kv.2 with
    | .str s => kv.1 ++ "='" ++ s ++ "'"
    | d => kv.1 ++ "=" ++ d.display
  cls ++ "(" ++ ", ".intercalate (config.fields.map part) ++ ")"

def PhysicsObject.text (o : PhysicsObject) : String := constructorText o.kind.name o.config

end ColliderML
