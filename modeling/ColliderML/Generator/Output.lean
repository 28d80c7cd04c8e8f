import ColliderML.Generator.Run
import ColliderML.Console.Table

/-!
An event generator's output directory: its version, the processes it was made
for, its runs, and a summary table of them.

The version is the only line of `MGMEVersion.txt`, stripped, or `unknown`. The
processes come from the first level-two heading of `crossx.html`, which reads
`Results in the <model> for <processes>`: the processes are what follows the
last ` for ` on the heading's first line, split at commas. The runs are the
directories `Events/run_N` (with one underscore), ordered by the integer `N`.
-/

namespace ColliderML

/-- An output directory, resolved below the working directory. -/
structure GeneratorOutput where
  dir : Location
  deriving Inhabited

namespace GeneratorOutput

def load (tree : FileTree) (given : Location) (executable : Datum) : Outcome GeneratorOutput :=
  if !tree.holds given then .error (.outputMissing given.relativeText)
  else match executable with
    | .none => .ok ⟨given.resolve⟩
    | d => .error (.executableMissing d.display)

def version (tree : FileTree) (root : String) (o : GeneratorOutput) : Outcome String := do
  let file := o.dir.child "MGMEVersion.txt"
  if !tree.holds file then return "unknown"
  let text ← tree.read file (file.text root)
  match FileTree.textLines text with
  | [line] => pure (Text.strip line)
  | _ => pure "unknown"

/-- The processes part of a results heading: what follows the last ` for ` on
its first line, when the line starts `Results in the ` and text stands on both
sides of that ` for `. -/
def processesOfHeading (heading : String) : Option String :=
  let line := (heading.toList.takeWhile (· != '\n'))
  let lead := "Results in the ".toList
  if !(lead.isPrefixOf line) then none
  else
    let rest := line.drop lead.length
    let marker := " for ".toList
    let positions := (List.range rest.length).filter (fun p =>
      p ≥ 1 && marker.isPrefixOf (rest.drop p) && rest.length > p + marker.length)
    match positions.getLast? with
    | some p => some (String.ofList (rest.drop (p + marker.length)))
    | none => none

def processes (tree : FileTree) (root : String) (o : GeneratorOutput) : Outcome (List String) := do
  let crossx := o.dir.child "crossx.html"
  let page ← tree.read crossx (crossx.text root)
  let heading ← GeneratorRun.nth (Markup.findAll "h2" (Markup.parse page)) 0
  match processesOfHeading (Text.strip heading.text) with
  | some p => pure (Text.splitOn p ",")
  | none => .error .listIndex

def runs (tree : FileTree) (root : String) (o : GeneratorOutput) : Outcome (List GeneratorRun) := do
  let candidates := (tree.glob (o.dir.child "Events") "run_*").filter (fun l =>
    tree.isDir l && (l.name.toList.filter (· = '_')).length == 1)
  let keyed ← candidates.mapM (fun l => do
    let k ← Text.readInteger ((Text.splitOn l.name "_").getLast?.getD "")
    pure (k, l.name))
  let sorted := keyed.mergeSort (fun a b => a.1 ≤ b.1)
  sorted.mapM (fun kn => GeneratorRun.load tree root o.dir kn.2)

def summary (tree : FileTree) (root : String) (o : GeneratorOutput) : Outcome String := do
  let title := "\n".intercalate (← o.processes tree root)
  let caption := "Output: " ++ o.dir.relativeText
  let runs ← o.runs tree root
  let rows ← ((List.range runs.length).zip runs).mapM (fun (i, run) => do
    let name ← run.runName
    let subs ← GeneratorRun.subRuns tree root run
    let collider ← run.collider
    let tag ← run.tag
    let cross ← run.cross
    let error ← run.error
    let n ← run.nEvents
    let seed ← run.seed
    pure [toString i, name ++ "[" ++ toString subs.length ++ "]", collider, tag,
      Number.scientificText cross 3 ++ " +- " ++ Number.scientificText error 3,
      Number.groupedText n, toString seed])
  Console.Table.render {
    title := title
    caption := caption
    columns := [⟨"#", .right⟩, ⟨"Name", .left⟩, ⟨"Collider", .left⟩, ⟨"Tag", .left⟩,
      ⟨"Cross section (pb)", .center⟩, ⟨"N events", .right⟩, ⟨"Seed", .right⟩]
    rows := rows }

end GeneratorOutput

end ColliderML
