import ColliderML.Boosting.Files
import ColliderML.Boosting.Model
import ColliderML.Command.Basic
import ColliderML.Command.Benchmarks
import ColliderML.Command.Boosting
import ColliderML.Command.Counting
import ColliderML.Command.Cuts
import ColliderML.Command.Datasets
import ColliderML.Command.EventReads
import ColliderML.Command.Generators
import ColliderML.Command.Histograms
import ColliderML.Command.Metrics
import ColliderML.Command.Networks
import ColliderML.Command.Observables
import ColliderML.Command.PhysicsObjects
import ColliderML.Command.Representations
import ColliderML.Command.Run
import ColliderML.Console.Markup
import ColliderML.Console.Table
import ColliderML.Counting.Metric
import ColliderML.Counting.Model
import ColliderML.Counting.Search
import ColliderML.Counting.Window
import ColliderML.Coverage.CutLayers
import ColliderML.Coverage.Glob
import ColliderML.Coverage.NameReading
import ColliderML.Coverage.ObservableReading
import ColliderML.Coverage.Package
import ColliderML.Coverage.Report
import ColliderML.Coverage.Sources
import ColliderML.Cut.Basic
import ColliderML.Cut.Evaluate
import ColliderML.Cut.Formula
import ColliderML.Cut.Pattern
import ColliderML.Cut.Read
import ColliderML.Cut.Scan
import ColliderML.Dataset.Basic
import ColliderML.Dataset.Held
import ColliderML.Dataset.Split
import ColliderML.Dataset.Store
import ColliderML.Dataset.View
import ColliderML.Datum
import ColliderML.Datum.Access
import ColliderML.Datum.Equality
import ColliderML.Datum.Json
import ColliderML.Datum.Literal
import ColliderML.Digest.Fingerprint
import ColliderML.Digest.Sha256
import ColliderML.Error
import ColliderML.Event.Basic
import ColliderML.Event.Constituents
import ColliderML.Event.Momentum
import ColliderML.Files.Tree
import ColliderML.Generator.Launch
import ColliderML.Generator.Call
import ColliderML.Generator.Output
import ColliderML.Generator.Run
import ColliderML.Jet.Algorithm
import ColliderML.Markup.Entity
import ColliderML.Markup.Scan
import ColliderML.Markup.Tree
import ColliderML.Metric.Rejection
import ColliderML.Metric.Significance
import ColliderML.Metric.Thresholds
import ColliderML.Number.Format
import ColliderML.Number.Grid
import ColliderML.Number.Remainder
import ColliderML.Number.Shortest
import ColliderML.Number.Single
import ColliderML.Number.Sum
import ColliderML.Observable.Alias
import ColliderML.Observable.Arg
import ColliderML.Observable.Basic
import ColliderML.Observable.Build
import ColliderML.Observable.Kind
import ColliderML.Observable.Read
import ColliderML.PhysicsObject.Basic
import ColliderML.PhysicsObject.Construct
import ColliderML.PhysicsObject.Name
import ColliderML.Proofs.Observable.Construct
import ColliderML.Proofs.Observable.Parse
import ColliderML.Proofs.Observable.RoundTrip
import ColliderML.Proofs.Outcome
import ColliderML.Proofs.PhysicsObject.Classification
import ColliderML.Proofs.PhysicsObject.Grammar
import ColliderML.Proofs.PhysicsObject.RoundTrip
import ColliderML.Proofs.Text.Characters
import ColliderML.Proofs.Text.Split
import ColliderML.Random.Normal
import ColliderML.Random.Pcg
import ColliderML.Random.Seed
import ColliderML.Random.Ziggurat
import ColliderML.Representation.Histogram
import ColliderML.Representation.Image.Basic
import ColliderML.Representation.Image.Bins
import ColliderML.Representation.Image.Center
import ColliderML.Representation.Image.Pixels
import ColliderML.Representation.Image.Read
import ColliderML.Representation.Set
import ColliderML.Tensor.Arith
import ColliderML.Tensor.Basic
import ColliderML.Tensor.Decode
import ColliderML.Tensor.Index
import ColliderML.Tensor.Reshape
import ColliderML.Tensor.Tally
import ColliderML.Text.Basic
import ColliderML.Text.Digit
import ColliderML.Text.Lower
import ColliderML.Text.Numeral
import ColliderML.Text.Printable
import ColliderML.Text.Ranges
import ColliderML.Text.Word
import ColliderML.Proofs.Observable.Acceptance
import ColliderML.Proofs.Image.OperationLog
import ColliderML.Proofs.Image.Binning
import ColliderML.Proofs.Tensor.Shape
import ColliderML.Proofs.Dataset.Alignment
import ColliderML.Proofs.Dataset.Rebuild
import ColliderML.Proofs.Dataset.Reload
import ColliderML.Proofs.Dataset.SaveLoad
import ColliderML.Proofs.Tensor.Entries
import ColliderML.Proofs.Observable.Window
import ColliderML.Proofs.Cut.Rewriting
import ColliderML.Proofs.Number.FloatOrder
import ColliderML.Proofs.Binning.Kernel
import ColliderML.Proofs.Binning.Instances
import ColliderML.Proofs.Image.Histogram
import ColliderML.Proofs.Image.Centers
import ColliderML.Proofs.Image.Configuration
import ColliderML.Proofs.Dataset.Partition
import ColliderML.Proofs.Image.Stopped
import ColliderML.Proofs.Set.Columns
import ColliderML.Proofs.Set.Columns
import ColliderML.Proofs.Image.Origin
import ColliderML.Proofs.Observable.Subjettiness
import ColliderML.Proofs.PhysicsObject.Readers
import ColliderML.Proofs.PhysicsObject.LetterCase
import ColliderML.Proofs.Observable.Equality
import ColliderML.Proofs.Observable.AngularDistance
import ColliderML.Proofs.Counting.CutSearch
import ColliderML.Proofs.Event.Constituents
import ColliderML.Proofs.Generator.Launch
import ColliderML.Proofs.Generator.Interference
import ColliderML.Proofs.Counting.Topology
import ColliderML.Proofs.Counting.Histogram
import ColliderML.Proofs.Metric.Significance
import ColliderML.Proofs.Number.FloatDifference
import ColliderML.Proofs.Metric.Thresholds
import ColliderML.Proofs.Tensor.Distinct
import ColliderML.Proofs.Number.FloatRounding
import ColliderML.Proofs.Boosting.ValidationSplit
