import ColliderML.Generator.Launch

/-!
Launch calls, with the objects they are given.

A launch takes its settings, decays and cards as objects. An argument the caller leaves out
is the parameter's default: an object made once, with the launch function, and shared by
every call that leaves the same argument out. A seeded launch writes its seed into its
settings dict, under `iseed`, before it reads anything else, so the caller's dict, or the
shared default one, keeps that entry after the call. Nothing else is written: decays and
cards are only read, after the seed is written, so a list that is also the settings dict is
read with the seed in it. Settings that are no dict stop the launch: at the write when it has
a seed, and where their items are listed when it has none.

The card files written for a launch come back with its script; no file of the output
directory changes.
-/

namespace ColliderML

/-- The objects of a running program, by address. -/
structure Heap where
  objects : Nat → Datum

namespace Heap

def read (h : Heap) (addr : Nat) : Datum := h.objects addr

def write (h : Heap) (addr : Nat) (d : Datum) : Heap :=
  ⟨fun other => if other = addr then d else h.objects other⟩

@[simp] theorem read_write_self (h : Heap) (addr : Nat) (d : Datum) :
    (h.write addr d).read addr = d := by
  simp [read, write]

@[simp] theorem read_write_of_ne (h : Heap) {addr other : Nat} (d : Datum) (hne : other ≠ addr) :
    (h.write addr d).read other = h.read other := by
  simp [read, write, hne]

theorem write_read_self (h : Heap) (addr : Nat) : h.write addr (h.read addr) = h := by
  cases h
  simp only [read, write, mk.injEq]
  funext other
  split <;> simp_all

end Heap

/-- Where the launch function keeps the defaults of its settings, decays and cards: three
objects, made with the function. -/
structure LaunchDefaults where
  settings : Nat
  decays : Nat
  cards : Nat
  distinct : settings ≠ decays ∧ settings ≠ cards ∧ decays ≠ cards

def LaunchDefaults.Made (d : LaunchDefaults) (h : Heap) : Prop :=
  h.read d.settings = .dict [] ∧ h.read d.decays = .list [] ∧ h.read d.cards = .list []

/-- A launch call: the values it passes, and the addresses of the settings, decays and cards
it passes (a default's address for one it leaves out). -/
structure LaunchCall where
  shower : Datum := .str "off"
  detector : Datum := .str "off"
  madspin : Datum := .str "off"
  settings : Nat
  decays : Nat
  cards : Nat
  multiRun : Datum := .int 1
  seed : Datum := .none

namespace LaunchCall

def omitting (d : LaunchDefaults) : LaunchCall :=
  { settings := d.settings, decays := d.decays, cards := d.cards }

def objects (a : LaunchCall) : List Nat := [a.settings, a.decays, a.cards]

def options (a : LaunchCall) (settings : List (String × Datum)) (decays cards : Datum) :
    LaunchOptions :=
  { shower := a.shower, detector := a.detector, madspin := a.madspin, settings := settings,
    decays := decays, cards := cards, multiRun := a.multiRun, seed := a.seed }

def seeded (a : LaunchCall) (settings : List (String × Datum)) : List (String × Datum) :=
  (a.options settings .none .none).seededSettings

/-- The heap once a launch has set its seed in its settings dict, which holds `settings`:
a launch without a seed writes nothing. -/
def writeSeed (a : LaunchCall) (h : Heap) (settings : List (String × Datum)) : Heap :=
  match a.seed with
  | .none => h
  | _ => h.write a.settings (.dict (a.seeded settings))

/-- The error of settings that are no dict: listing their items without a seed, writing the
seed into them with one. -/
def settingsError (a : LaunchCall) (settings : Datum) : Error :=
  match a.seed, settings with
  | .none, d => .noMember d.kindName "items"
  | _, .list _ => .other .badType "list indices must be integers or slices, not str"
  | _, d => .other .badType ("'" ++ d.kindName ++ "' object does not support item assignment")

end LaunchCall

/-- A dry launch: the seed goes into the settings dict first; the script is then written
from the settings as given and from the decays and cards as they are after the write. -/
def dryLaunch (tree : FileTree) (root : String) (o : GeneratorOutput) (cardName : Nat → String)
    (h : Heap) (a : LaunchCall) : Outcome LaunchScript × Heap :=
  match h.read a.settings with
  | .dict settings =>
    let written := a.writeSeed h settings
    (launchScript tree root o (a.options settings (written.read a.decays) (written.read a.cards))
      cardName, written)
  | d => (.error (a.settingsError d), h)

end ColliderML
