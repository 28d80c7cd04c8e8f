import ColliderML.Files.Tree
import ColliderML.Markup.Tree
import ColliderML.Text.Numeral
import ColliderML.Number.Format

/-!
Runs of an event generator's output directory.

A run named `name` lives in `Events/name`. Its banner file is the first
`*_banner.txt` inside that directory, else `Events/name_banner.txt`; without
one the run cannot be opened. Its facts come from the results table of
`crossx.html`: every row of the first table after the first whose first cell's
text is exactly the name gives them, a later row replacing an earlier one:

* the collider, from the words of the second cell, `{w0}{w1}:{w2}x{w4}`;
* the tag, the first word of the third cell;
* the seed, the integer before `=` on the first banner line that mentions `iseed`;
* the cross section and its error, the first and third words of the fourth cell;
* the number of events, the first word of the fifth cell.

A run that no row names has no facts, and asking for one fails with its key.
Sub-runs are the directories `Events/name_*`.
-/

namespace ColliderML

/-- The facts of a run from its row of the results table. -/
structure RunFacts where
  collider : String
  tag : String
  /-- Absent when no banner line mentions the seed. -/
  seed : Option Int
  cross : Float
  error : Float
  nEvents : Int
  deriving Inhabited

structure GeneratorRun where
  /-- The output directory, as it was given. -/
  output : Location
  name : String
  facts : Option RunFacts
  deriving Inhabited

namespace GeneratorRun

def nth {α : Type} (xs : List α) (i : Nat) : Outcome α :=
  match xs[i]? with
  | some x => .ok x
  | none => .error .listIndex

def eventsDir (output : Location) : Location := output.child "Events"

def directory (r : GeneratorRun) : Location := (eventsDir r.output).child r.name

def bannerOf (tree : FileTree) (output : Location) (name : String) : Outcome Location :=
  let runDir := (eventsDir output).child name
  match tree.glob runDir "*_banner.txt" with
  | b :: _ => .ok b
  | [] =>
    match tree.glob (eventsDir output) (name ++ "_banner.txt") with
    | b :: _ => .ok b
    | [] => .error .bannerMissing

def seedOf (banner : String) : Outcome (Option Int) :=
  match (FileTree.textLines banner).find? (fun l => Text.containsText l "iseed") with
  | some line => do
    let v ← Text.readInteger (Text.strip ((Text.splitOn line "=").headD line))
    pure (some v)
  | none => .ok none

def factsOfRow (tree : FileTree) (root : String) (banner : Location) (cells : List Markup.Node) :
    Outcome RunFacts := do
  let colliderWords := Text.words (← nth cells 1).text
  let (lpp1, lpp2) ← match colliderWords with
    | a :: b :: _ => pure (a, b)
    | ws => .error (.tooFewParts 2 ws.length)
  let ebeam1 ← nth colliderWords 2
  let ebeam2 ← nth colliderWords 4
  let tag ← nth (Text.words (← nth cells 2).text) 0
  let seed ← seedOf (← tree.read banner (banner.text root))
  let crossWords := Text.words (← nth cells 3).text
  let cross ← Text.readFloat (← nth crossWords 0)
  let error ← Text.readFloat (← nth crossWords 2)
  let nEvents ← Text.readInteger (← nth (Text.words (← nth cells 4).text) 0)
  pure { collider := lpp1 ++ lpp2 ++ ":" ++ ebeam1 ++ "x" ++ ebeam2, tag, seed, cross, error, nEvents }

def load (tree : FileTree) (root : String) (output : Location) (name : String) : Outcome GeneratorRun := do
  let banner ← bannerOf tree output name
  let crossx := output.child "crossx.html"
  let page ← tree.read crossx (crossx.text root)
  let table ← match Markup.findAll "table" (Markup.parse page) with
    | t :: _ => pure t
    | [] => .error (.noMember "NoneType" "find_all")
  let rows := (table.findAll "tr").drop 1
  let facts ← rows.foldlM (fun (acc : Option RunFacts) row => do
    let cells := row.findAll "td"
    let first ← nth cells 0
    if first.text != name then pure acc
    else do
      let f ← factsOfRow tree root banner cells
      pure (some f)) none
  pure { output, name, facts }

def fact {α : Type} (r : GeneratorRun) (key : String) (get : RunFacts → α) : Outcome α :=
  match r.facts with
  | some f => .ok (get f)
  | none => .error (.missingKey (quoteText key))

def runName (r : GeneratorRun) : Outcome String := r.fact "name" (fun _ => r.name)

def collider (r : GeneratorRun) : Outcome String := r.fact "collider" (·.collider)

def tag (r : GeneratorRun) : Outcome String := r.fact "tag" (·.tag)

def cross (r : GeneratorRun) : Outcome Float := r.fact "cross" (·.cross)

def error (r : GeneratorRun) : Outcome Float := r.fact "error" (·.error)

def nEvents (r : GeneratorRun) : Outcome Int := r.fact "n_events" (·.nEvents)

def seed (r : GeneratorRun) : Outcome Int :=
  match r.facts.bind (·.seed) with
  | some s => .ok s
  | none => .error (.missingKey (quoteText "seed"))

def subRunNames (tree : FileTree) (r : GeneratorRun) : List String :=
  (tree.glob (eventsDir r.output) (r.name ++ "_*")).filter tree.isDir |>.map Location.name

def subRuns (tree : FileTree) (root : String) (r : GeneratorRun) : Outcome (List GeneratorRun) :=
  (subRunNames tree r).mapM (load tree root r.output)

/-- The event files of a run in a format: for `root`, the `.root` files of the
sub-runs (or of the run itself when it has none), each as `path:Delphes`. -/
def events (tree : FileTree) (root : String) (r : GeneratorRun) (format : Datum) : Outcome (List String) := do
  match format with
  | .str "root" => pure ()
  | _ => .error (.unsupportedFormat format.display)
  let subs ← subRuns tree root r
  let dirs := if subs.isEmpty then [r.directory] else subs.map directory
  pure (dirs.flatMap (fun d => (tree.glob d "*.root").map (fun f => f.text root ++ ":Delphes")))

def describe (tree : FileTree) (root : String) (r : GeneratorRun) : Outcome String := do
  let name ← r.runName
  let subs ← subRuns tree root r
  let head := if subs.isEmpty then name else name ++ " (" ++ toString subs.length ++ " sub runs)"
  let collider ← r.collider
  let tag ← r.tag
  let seed ← r.seed
  let cross ← r.cross
  let error ← r.error
  let n ← r.nEvents
  pure ("Madgraph5Run " ++ head ++ ":\n- collider: " ++ collider ++ "\n- tag: " ++ tag ++
    "\n- seed: " ++ toString seed ++ "\n- cross: " ++ Number.floatText cross ++
    "\n- error: " ++ Number.floatText error ++ "\n- n_events: " ++ toString n)

end GeneratorRun

end ColliderML
