import ColliderML.PhysicsObject.Basic
import ColliderML.Observable.Kind

/-!
# What the coverage collector measures

The coverage tool reports on the files of a measured package that lie under a
directory. Each file is listed by its path from the repository root, with the
number of statements the collector counts in it: every line that starts a
statement, with docstrings and lines excluded from measurement left out. A
file of no statements still counts as a measured file.

The files and the statements each followed call runs are the collector's
measurement of the package's source; the tool takes them as a `Measurement`.
-/

namespace ColliderML.Coverage

/-- A statement of the package: the path of its file from the repository root,
and the line it starts on. -/
abbrev Statement := String × Nat

def statementsAt (path : String) (lines : List Nat) : List Statement :=
  lines.map (fun n => (path, n))

def addStatements (known : List Statement) (more : List Statement) : List Statement :=
  more.foldl (fun acc s => if acc.contains s then acc else acc ++ [s]) known

/-- What the collector measured of a package: its files, in path order, each
with its number of statements, and the statements run by the calls that the
coverage tool follows statement by statement. -/
structure Measurement where
  /-- The files with their statement counts. -/
  files : List (String × Nat)
  /-- Building physics objects from their names and reading them back. -/
  naming : List PhysicsObject → List Statement
  /-- Building an observable of a kind on an object, by an alias or not,
  reading it from the reading benchmark's events and describing it. -/
  reading : ObservableKind → Bool → PhysicsObject → List Statement
  /-- Asking for a size the events do not hold. -/
  missingSize : List Statement
  /-- The layer benchmark with some layers. -/
  layers : Nat → List Statement

end ColliderML.Coverage
