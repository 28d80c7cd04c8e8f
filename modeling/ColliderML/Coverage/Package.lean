import ColliderML.Coverage.CutLayers
import ColliderML.Coverage.ObservableReading

/-!
# The package as the collector measured it

The files of the package with their statement counts, and the statements that
its parsing, reading and layer benchmarks run, as the collector records them
for the package's source. The reading benchmark reads events with four entries
in every branch, the transverse momentum, pseudorapidity, azimuth, charge and
tags stored.
-/

namespace ColliderML.Coverage

def packageFiles : List (String × Nat) :=
  [ ("hml/__init__.py", 3)
  , ("hml/approaches/__init__.py", 14)
  , ("hml/approaches/cuts/__init__.py", 3)
  , ("hml/approaches/cuts/cut.py", 74)
  , ("hml/approaches/cuts/cut_and_count.py", 101)
  , ("hml/approaches/cuts/cut_layer.py", 54)
  , ("hml/approaches/networks/__init__.py", 3)
  , ("hml/approaches/networks/cnns/__init__.py", 1)
  , ("hml/approaches/networks/cnns/simple_cnn.py", 30)
  , ("hml/approaches/networks/gnns/__init__.py", 1)
  , ("hml/approaches/networks/gnns/simple_gnn.py", 2)
  , ("hml/approaches/networks/mlps/__init__.py", 1)
  , ("hml/approaches/networks/mlps/simple_mlp.py", 23)
  , ("hml/approaches/trees/__init__.py", 1)
  , ("hml/approaches/trees/gradient_boosted_decision_tree.py", 98)
  , ("hml/datasets/__init__.py", 14)
  , ("hml/datasets/demo_z_tagging.py", 2)
  , ("hml/datasets/graph_dataset.py", 2)
  , ("hml/datasets/image_dataset.py", 178)
  , ("hml/datasets/set_dataset.py", 164)
  , ("hml/generators/__init__.py", 1)
  , ("hml/generators/madgraph5.py", 351)
  , ("hml/metrics/__init__.py", 2)
  , ("hml/metrics/max_significance.py", 80)
  , ("hml/metrics/rejection_at_efficiency.py", 17)
  , ("hml/observables/__init__.py", 30)
  , ("hml/observables/angular_distance.py", 32)
  , ("hml/observables/charge.py", 8)
  , ("hml/observables/invariant_mass.py", 23)
  , ("hml/observables/kinematics.py", 43)
  , ("hml/observables/n_subjettiness.py", 80)
  , ("hml/observables/observable.py", 126)
  , ("hml/observables/size.py", 17)
  , ("hml/observables/tag.py", 13)
  , ("hml/operations/__init__.py", 3)
  , ("hml/operations/fastjet_ops.py", 5)
  , ("hml/operations/keras_ops.py", 19)
  , ("hml/operations/repr_ops.py", 0)
  , ("hml/operations/uproot_ops.py", 36)
  , ("hml/physics_objects/__init__.py", 21)
  , ("hml/physics_objects/collective.py", 45)
  , ("hml/physics_objects/multiple.py", 53)
  , ("hml/physics_objects/nested.py", 43)
  , ("hml/physics_objects/physics_object.py", 35)
  , ("hml/physics_objects/single.py", 32)
  , ("hml/representations/__init__.py", 3)
  , ("hml/representations/graph.py", 2)
  , ("hml/representations/image.py", 227)
  , ("hml/representations/set.py", 49)]

def benchmarkEvents : ObservableReading.Events :=
  { fields := ["pt", "eta", "phi", "charge", "btag", "tautag"], entries := 4 }

def Measurement.package : Measurement where
  files := packageFiles
  naming := nameReadingStatements
  reading k aliased o := ObservableReading.buildReadDescribe k aliased benchmarkEvents o
  missingSize := ObservableReading.missingSize
  layers := cutLayerStatements

end ColliderML.Coverage
