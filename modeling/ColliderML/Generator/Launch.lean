import ColliderML.Generator.Output
import ColliderML.Datum.Access

/-!
Launch scripts for an output directory, written without running anything.

The script launches the output, asks for events (or for several runs), sets
the shower, detector and decay switches, closes that menu, then lists the
settings as `set key value`, the decays, and the cards, and closes again.

A seed is added to the settings as `iseed`, and also written into the shower
and detector cards when those are on. The shower card is the last given card
whose name mentions `pythia8`; its seed lines are set (`Random:setSeed = on`
and `Random:seed = <seed>`) and it is written anew. Without such a card the
default card of the output is copied with the seed appended, and that copy is
not listed. The detector card is the last given card mentioning `delphes`, its
`set RandomSeed` line set or put first, or else the default card with that line
put first. Cards written anew replace the given ones in the script.
-/

namespace ColliderML

structure LaunchOptions where
  shower : Datum := .str "off"
  detector : Datum := .str "off"
  madspin : Datum := .str "off"
  settings : List (String × Datum) := []
  decays : Datum := .list []
  cards : Datum := .list []
  multiRun : Datum := .int 1
  seed : Datum := .none
  deriving Inhabited

structure CardFile where
  /-- The start of the file's name. -/
  namePrefix : String
  content : String
  /-- Whether the script lists the file. -/
  listed : Bool
  deriving Inhabited

/-- A launch script and the card files written for it. -/
structure LaunchScript where
  commands : String
  cards : List CardFile
  deriving Inhabited

namespace LaunchOptions

def showerOn (o : LaunchOptions) : Bool :=
  match o.shower with
  | .str "on" | .str "pythia8" => true
  | _ => false

def detectorOn (o : LaunchOptions) : Bool :=
  match o.detector with
  | .str "on" | .str "delphes" => true
  | _ => false

def singleRun (o : LaunchOptions) : Bool :=
  match o.multiRun with
  | .int 1 | .bool true => true
  | .float x => x == 1.0
  | _ => false

end LaunchOptions

def lastCardNaming (cards : Datum) (word : String) : Outcome (Option Datum) := do
  let items ← cards.iterItems
  items.foldlM (fun acc c => do
    let hit ← c.containsText word
    pure (if hit then some c else acc)) none

def readCard (tree : FileTree) (card : Datum) : Outcome String :=
  match card with
  | .str s => tree.read (Location.ofText s) s
  | d => .error (.other .badType ("expected str, bytes or os.PathLike object, not " ++ d.kindName))

/-- A shower card with its seed lines set: the first `Random:seed` line (looked
for until then) is replaced; without `Random:setSeed = on` before it both lines
are appended, and without a seed line it is appended. -/
def seedShowerCard (lines : List String) (seed : String) : List String :=
  let seedLine := "Random:seed = " ++ seed ++ "\n"
  let rec go : List String → Bool → List String × Bool × Bool
    | [], setSeed => ([], setSeed, false)
    | l :: rest, setSeed =>
      let setSeed := setSeed || Text.startsWith l "Random:setSeed = on"
      if Text.startsWith l "Random:seed" then (seedLine :: rest, setSeed, true)
      else
        let (r, s, f) := go rest setSeed
        (l :: r, s, f)
  let (lines, setSeed, found) := go lines false
  if !setSeed then lines ++ ["Random:setSeed = on\n", seedLine]
  else if !found then lines ++ [seedLine]
  else lines

/-- A detector card with its seed line set: the first `set RandomSeed` line is
replaced, or the line is put first. -/
def seedDetectorCard (lines : List String) (seed : String) : List String :=
  let seedLine := "set RandomSeed " ++ seed ++ "\n"
  match lines.findIdx? (fun l => Text.startsWith l "set RandomSeed") with
  | some i => lines.set i seedLine
  | none => seedLine :: lines

namespace LaunchOptions

def seededSettings (opts : LaunchOptions) : List (String × Datum) :=
  match opts.seed with
  | .none => opts.settings
  | s => assocSet opts.settings "iseed" s

end LaunchOptions

/-- The shower card of a seeded launch: the chosen card with its seed lines set, or a
copy of the output's default card with the seed lines appended, which is not listed. -/
def showerCard (tree : FileTree) (root : String) (o : GeneratorOutput) (opts : LaunchOptions)
    (seedText : String) : Outcome CardFile := do
  match (← lastCardNaming opts.cards "pythia8") with
  | some card =>
    let text ← readCard tree card
    let lines := seedShowerCard (FileTree.textLines text) seedText
    pure ⟨"pythia8_card_", String.join lines, true⟩
  | none =>
    let file := o.dir.child "Cards/pythia8_card_default.dat"
    let text ← tree.read file (file.text root)
    let content := text ++ "\n! Modified by hep-ml-lab" ++ "\nRandom:setSeed = on\nRandom:seed = " ++
      seedText ++ "\n"
    pure ⟨"pythia8_card_", content, false⟩

/-- The detector card of a seeded launch: the chosen card, or the output's default
card, with its seed line set. -/
def detectorCard (tree : FileTree) (root : String) (o : GeneratorOutput) (opts : LaunchOptions)
    (seedText : String) : Outcome CardFile := do
  match (← lastCardNaming opts.cards "delphes") with
  | some card =>
    let text ← readCard tree card
    let lines := seedDetectorCard (FileTree.textLines text) seedText
    pure ⟨"delphes_card_", String.join lines, true⟩
  | none =>
    let file := o.dir.child "Cards/delphes_card_default.dat"
    let text ← tree.read file (file.text root)
    pure ⟨"delphes_card_", "set RandomSeed " ++ seedText ++ "\n" ++ text, true⟩

def cardIf (on : Bool) (card : Outcome CardFile) : Outcome (List CardFile) :=
  if on then (fun c => [c]) <$> card else pure []

/-- The card files a launch writes: with a seed, the shower card when the shower is on,
then the detector card when the detector is on. -/
def seededCards (tree : FileTree) (root : String) (o : GeneratorOutput) (opts : LaunchOptions) :
    Outcome (List CardFile) :=
  match opts.seed with
  | .none => pure []
  | seed => do
    let shower ← cardIf opts.showerOn (showerCard tree root o opts seed.display)
    let detector ← cardIf opts.detectorOn (detectorCard tree root o opts seed.display)
    pure (shower ++ detector)

def cardLines (written : List CardFile) (cards : Datum) (cardName : Nat → String) :
    Outcome (List String) :=
  let listedCount := (written.filter (·.listed)).length
  if listedCount > 0 then pure ((List.range listedCount).map cardName) else cards.textItems

/-- The start of a launch script: the launch, the number of runs, the switches, and the
end of that menu. -/
def scriptHead (root : String) (o : GeneratorOutput) (opts : LaunchOptions) : String :=
  "launch -i " ++ o.dir.text root ++ "\n" ++
    (if opts.singleRun then "generate_events\n" else "multi_run " ++ opts.multiRun.display ++ "\n") ++
    "shower=" ++ opts.shower.display ++ "\n" ++
    "detector=" ++ opts.detector.display ++ "\n" ++
    "madspin=" ++ opts.madspin.display ++ "\n" ++
    "done\n"

def settingsText (settings : List (String × Datum)) : String :=
  if settings.isEmpty then ""
  else "\n".intercalate (settings.map (fun kv => "set " ++ kv.1 ++ " " ++ kv.2.display)) ++ "\n"

def decaysText (decays : Datum) : Outcome String :=
  match decays with
  | .list [] => pure ""
  | d => do
    let items ← d.iterItems
    pure ("\n".intercalate (items.map (fun i => "decay " ++ i.display)) ++ "\n")

def launchScript (tree : FileTree) (root : String) (o : GeneratorOutput) (opts : LaunchOptions)
    (cardName : Nat → String) : Outcome LaunchScript := do
  let decays ← decaysText opts.decays
  let written ← seededCards tree root o opts
  let names ← cardLines written opts.cards cardName
  pure { commands := scriptHead root o opts ++ settingsText opts.seededSettings ++ decays ++
           ("\n".intercalate names ++ "\n") ++ "done\n",
         cards := written }

end ColliderML
