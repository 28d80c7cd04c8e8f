import ColliderML.Command.Basic
import ColliderML.Boosting.Model
import ColliderML.Tensor.Decode

/-!
Commands on the small networks. A perceptron or a convolutional network is
made with an input shape and maybe a name; its configuration holds both. Its
layers keep the mean of what they are given, so the output of an input is
the mean of all its entries, in single precision, for each of two classes.
The graph network and the graph classes are placeholders without content.
-/

namespace ColliderML

namespace Command

open Request

def networkOutput (x : Tensor) : Datum :=
  .list (x.rows.map (fun r =>
    let m := Single.round (Number.pairwiseSum Single.round (r.toList.map Scalar.toFloat) /
      Float.ofNat r.data.size)
    .list [.float m, .float m]))

def runNetwork (req : Datum) : Outcome Datum := do
  let cls ← needText req "class"
  let fallback ← match cls with
    | "SimpleMLP" => pure "simple_mlp"
    | "SimpleCNN" => pure "simple_cnn"
    | "SimpleGNN" | "Graph" | "GraphDataset" => return .dict [("type", .str cls)]
    | _ => throw (.badRequest "unknown network class")
  let args := (opt req "args" (.dict [])).fields
  let shape ← match req.field? "input_shape" <|> args.lookup "input_shape" with
    | some s => pure s
    | none => throw (.missingParameters (cls ++ ".__init__") ["input_shape"])
  let name := (args.lookup "name").getD (.str fallback)
  let described : List (String × Datum) :=
    [("name", name), ("config", .dict [("name", name), ("input_shape", shape)])]
  match req.field? "x" with
  | none | some .none => pure (.dict described)
  | some xd =>
    let x ← Tensor.ofDatum .float32 xd
    pure (.dict (described ++ [("output", networkOutput x)]))

end Command

end ColliderML
