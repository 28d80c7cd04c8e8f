import ColliderML.Coverage.Sources

/-!
# Statements run by cut layers and the cut-and-count model

A cut layer made without a name runs its constructor, which stores the cut and
adds its three weights. Writing out its cut reads its way (and the upper edge
for the two ways that use it) and takes the branch of that way; applying it
to rows first picks its feature. The cut-and-count model makes one unnamed
layer per observable; called on rows without labels, it multiplies the
layers' own outputs, and its sequential pass applies each layer to its
feature and keeps the rows that every layer keeps.
-/

namespace ColliderML.Coverage

namespace CutLayers

def layerFile : String := "hml/approaches/cuts/cut_layer.py"

def modelFile : String := "hml/approaches/cuts/cut_and_count.py"

def make : List Statement := statementsAt layerFile [19, 22, 23, 25, 26, 27, 33, 39, 45]

/-- Writing out the cut of a layer of a way: below the lower edge, above it,
between the edges, or outside them. -/
def describe (way : Nat) : List Statement :=
  statementsAt layerFile ([49, 52, 75, 67] ++
    match way with
    | 0 => [53]
    | 1 => [54, 55]
    | 2 => [54, 56, 57, 71]
    | _ => [54, 56, 59, 71])

def apply (rows : Bool) : List Statement :=
  statementsAt layerFile ([103, 104] ++ (if rows then [105] else []) ++ [107, 128])

def call : List Statement := statementsAt layerFile [78, 100]

def countingModel (observables : Nat) : List Statement :=
  let layers := List.replicate observables ()
  statementsAt modelFile [20, 21, 22, 23, 24] ++ layers.flatMap (fun _ => make) ++
  statementsAt modelFile [40, 41, 47, 50, 52, 64] ++
    layers.flatMap (fun _ => statementsAt modelFile [53, 55, 61, 62] ++ call) ++
  statementsAt modelFile [67, 68, 69, 86] ++
    layers.flatMap (fun _ => statementsAt modelFile [70, 72, 82, 83, 84] ++ apply false)

end CutLayers

/-- The distinct statements that the layer benchmark runs with `n` layers: each
layer made, written out and applied to the rows, and a two-observable model
called and passed through in sequence. -/
def cutLayerStatements (n : Nat) : List Statement :=
  let layers := (List.range n).flatMap (fun i =>
    CutLayers.make ++ CutLayers.describe (i % 4) ++ CutLayers.apply true)
  addStatements [] (layers ++ CutLayers.countingModel 2)

end ColliderML.Coverage
