import ColliderML.Command.Cuts
import ColliderML.Command.Representations
import ColliderML.Command.Histograms
import ColliderML.Command.Generators
import ColliderML.Command.EventReads
import ColliderML.Command.Metrics
import ColliderML.Command.Counting
import ColliderML.Command.Datasets
import ColliderML.Command.Boosting
import ColliderML.Command.Networks
import ColliderML.Command.Benchmarks
import ColliderML.Coverage.Package

/-!
Answering a request: the operation named by its field "op" runs on the
request's fields. An unknown operation, or a request that is not a record,
is refused.
-/

namespace ColliderML

namespace Command

def flatten (r : Outcome Reply) : Reply :=
  match r with
  | .ok reply => reply
  | .error e => .failure e

def answer (req : Datum) : Reply :=
  match req with
  | .dict _ =>
    match req.field? "op" with
    | some (.str op) =>
      match op with
      | "physics_object" => readObject req
      | "physics_object_from_name" => objectFromName req
      | "physics_object_new" => newObject req
      | "physics_object_from_config" => objectFromConfig req
      | "physics_object_is" => flatten (classifyObject req)
      | "physics_object_eq" => compareObjects req
      | "physics_object_get" => objectKindNamed req
      | "observable" => readObservable AliasTable.shipped req
      | "observable_new" => newObservable AliasTable.shipped req
      | "observable_from_name" => observableFromName AliasTable.shipped req
      | "observable_from_config" => observableFromConfig AliasTable.shipped req
      | "observable_eq" => compareObservables AliasTable.shipped req
      | "observable_get" => observableKindNamed AliasTable.shipped req
      | "observables_session" => flatten (runSession req)
      | "cut" => readCut AliasTable.shipped req
      | "set" => readSet AliasTable.shipped req
      | "image" => flatten (runImage AliasTable.shipped req)
      | "image_events" => flatten (runImageEvents AliasTable.shipped req)
      | "cut_layer" => Reply.ofOutcome (featureCutReport req)
      | "gbdt" => flatten (runBoosting req)
      | "network" => Reply.ofOutcome (runNetwork req)
      | "set_dataset" => flatten (runSetDataset AliasTable.shipped req)
      | "image_dataset" => flatten (runImageDataset AliasTable.shipped req)
      | "cut_and_count" => flatten (runCounting req)
      | "histograms" => Reply.value (fillHistograms req)
      | "histogram2d" => Reply.value (fillHistogram req)
      | "mg5_run" => flatten (describeRun req)
      | "mg5" => flatten (runOutput req)
      | "observable_read" => Reply.ofOutcome (readObservableEvents AliasTable.shipped req)
      | "momentum4d" => Reply.ofOutcome (branchMomenta req)
      | "eflow" => Reply.ofOutcome (matchFlow req)
      | "cut_read" => readCutEvents AliasTable.shipped req
      | "set_read" => Reply.ofOutcome (readSetEvents AliasTable.shipped req)
      | "max_significance" => Reply.ofOutcome (significanceSearch req)
      | "rejection_at_efficiency" => Reply.value (backgroundRejection req)
      | "calculate_thresholds" => Reply.value (thresholdsOfScores req)
      | "keras_ops" => Reply.value (tallyValues req)
      | "jet_algorithm" => Reply.value (jetAlgorithmCode req)
      | "microbench" => Reply.value (runBenchmark AliasTable.shipped req)
      | "pti" => measureBenchmarks Coverage.Measurement.package AliasTable.shipped req
      | _ => .failure (.badRequest "unknown op")
    | _ => .failure (.badRequest "unknown op")
  | _ => .failure (.badRequest "request is not an object")

end Command

end ColliderML
