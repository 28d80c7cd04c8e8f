import ColliderML.Coverage.Glob
import ColliderML.Coverage.Sources
import ColliderML.Datum
import ColliderML.Number.Format

/-!
# Coverage reports

A coverage report covers the package's files under a source directory, less
those whose absolute path matches an omitted pattern. Each file counts the
statements that ran while the collector was on, out of its statements. The
totals sum them; the percentage covered is a hundred times the ratio, and a
hundred when there are no statements at all. The summary line gives the
percentage to one decimal, the two counts, and the numbers of benchmarks
and of benchmark failures.

A benchmark that fails before reaching the package runs none of its
statements, so a run in which every benchmark fails that way covers nothing.
-/

namespace ColliderML.Coverage

def checkoutRoot : String := "/repo"

def absolutePath (path : String) : String := checkoutRoot ++ "/" ++ path

/-- The patterns an omitted text stands for: the text itself, and, unless it
starts with a wildcard, the text taken from the repository root. -/
def omittedPatterns (text : String) : Except Error (List FilePattern) := do
  let own ← FilePattern.parse text
  if text.startsWith "*" || text.startsWith "?" then pure [own]
  else pure [own, ← FilePattern.parse (absolutePath text)]

def normalDirectory (dir : String) : String :=
  let cs := dir.toList
  let cs := if cs.take 2 == ['.', '/'] then cs.drop 2 else cs
  String.ofList (cs.reverse.dropWhile (· == '/')).reverse

def underDirectory (dir path : String) : Bool :=
  path.startsWith (normalDirectory dir ++ "/")

/-- The coverage of one file: the statements that ran, out of all of them. -/
structure FileCoverage where
  path : String
  covered : Nat
  statements : Nat
  deriving Repr

/-- A coverage run: the files measured, the failures of the benchmarks run
(by benchmark, as the exception's class and message), and the number of
benchmarks. -/
structure CoverageRun where
  files : List FileCoverage
  failures : List (String × String)
  benchmarks : Nat

/-- The files measured for a source directory and omitted patterns, each
covering the distinct statements of it among those that ran. -/
def measuredFiles (files : List (String × Nat)) (source : String) (omitted : List FilePattern)
    (ran : List Statement) : List FileCoverage :=
  (files.filter (fun f =>
    underDirectory source f.1 && !omitted.any (fun p => p.matches (absolutePath f.1)))).map
    (fun f => { path := f.1, statements := f.2,
                covered := (addStatements [] (ran.filter (·.1 == f.1))).length })

namespace CoverageRun

def covered (r : CoverageRun) : Nat := (r.files.map (·.covered)).foldr (· + ·) 0

def statements (r : CoverageRun) : Nat := (r.files.map (·.statements)).foldr (· + ·) 0

def percent (r : CoverageRun) : Float :=
  if r.statements == 0 then 100.0
  else 100.0 * Float.ofNat r.covered / Float.ofNat r.statements

def summary (r : CoverageRun) : String :=
  "coverage: " ++ Number.fixedText r.percent 1 ++ "% (" ++ toString r.covered ++ "/" ++
    toString r.statements ++ " stmts, " ++ toString r.benchmarks ++ " benches, " ++
    toString r.failures.length ++ " errors)"

def toDatum (r : CoverageRun) : Datum :=
  .dict [("bench_errors", .dict (r.failures.map (fun f => (f.1, .str f.2)))),
    ("files", .dict (r.files.map (fun f =>
      (f.path, .list [.int f.covered, .int f.statements])))),
    ("n_benches", .int r.benchmarks),
    ("printed", .str r.summary),
    ("totals", .dict [("covered_lines", .int r.covered),
      ("missing_lines", .int (r.statements - r.covered)),
      ("num_statements", .int r.statements),
      ("percent_covered", .float r.percent)])]

end CoverageRun

end ColliderML.Coverage
