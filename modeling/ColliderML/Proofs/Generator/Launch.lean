import ColliderML.Command.Generators
import ColliderML.Proofs.Outcome
import ColliderML.Proofs.Text.Split

/-!
# Seeded launch scripts

A seeded launch sets the seed three ways: as the `iseed` setting of the script, in
the shower card when the shower is on, and in the detector card when the detector
is on. Every card written anew carries the seed, but only the files the script
lists are used: the detector card always is, and the shower card is exactly when
the caller gave one. The copy of the output's default shower card is written and
never listed, so a seeded shower without a card of its own runs unseeded.

The seed lines of a card are set as follows. In a shower card the first
`Random:seed` line is replaced, and the lines turning seeding on and giving the
seed are appended when they are missing; in a detector card the first
`set RandomSeed` line is replaced, or the line is put first.
-/

namespace ColliderML

namespace Text

theorem isPrefix_iff {p l : List Char} : isPrefix p l = true ↔ p <+: l := by
  induction p generalizing l with
  | nil => simp [isPrefix]
  | cons a p ih =>
    cases l with
    | nil => simp [isPrefix]
    | cons b l => simp [isPrefix, ih, List.cons_prefix_cons]

end Text

namespace LaunchSeeding

/-! ## Lines of a text -/

def HasLine (text line : String) : Prop :=
  ∃ pre post, text = pre ++ "\n" ++ line ++ "\n" ++ post

theorem HasLine.append_left {t line : String} (h : HasLine t line) (u : String) :
    HasLine (u ++ t) line := by
  obtain ⟨pre, post, rfl⟩ := h
  exact ⟨u ++ pre, post, by simp [String.append_assoc]⟩

theorem HasLine.append_right {t line : String} (h : HasLine t line) (u : String) :
    HasLine (t ++ u) line := by
  obtain ⟨pre, post, rfl⟩ := h
  exact ⟨pre, post ++ u, by simp [String.append_assoc]⟩

theorem hasLine_intercalate {l : List String} {x : String} (hx : x ∈ l) :
    HasLine ("\n" ++ ("\n".intercalate l ++ "\n")) x := by
  induction l with
  | nil => simp at hx
  | cons a rest ih =>
    cases rest with
    | nil =>
      obtain rfl : x = a := by simpa using hx
      exact ⟨"", "", by simp [String.append_assoc]⟩
    | cons b rest =>
      rw [String.intercalate_cons_cons]
      rcases List.mem_cons.1 hx with rfl | hrest
      · exact ⟨"", "\n".intercalate (b :: rest) ++ "\n", by simp [String.append_assoc]⟩
      · have hsplit : "\n" ++ (a ++ "\n" ++ "\n".intercalate (b :: rest) ++ "\n") =
            ("\n" ++ a) ++ ("\n" ++ ("\n".intercalate (b :: rest) ++ "\n")) := by
          simp [String.append_assoc]
        rw [hsplit]
        exact (ih hrest).append_left _

/-! ## The seed lines of a shower card -/

def ShowerSeeded (lines : List String) (seed : String) : Prop :=
  ("Random:seed = " ++ seed ++ "\n") ∈ lines ∧
    ∃ l ∈ lines, Text.startsWith l "Random:setSeed = on" = true

theorem not_seedLine_of_setSeed {l : String}
    (h : Text.startsWith l "Random:setSeed = on" = true) :
    Text.startsWith l "Random:seed" = false := by
  rw [Bool.eq_false_iff]
  intro hseed
  rw [Text.startsWith, Text.isPrefix_iff] at h hseed
  have hlen : "Random:seed".toList.length ≤ "Random:setSeed = on".toList.length := by decide
  exact absurd (List.prefix_of_prefix_length_le hseed h hlen) (by decide)

theorem seedShowerCard_go_eq (seedLine : String) (lines : List String) (b : Bool) :
    seedShowerCard.go seedLine lines b =
      match lines.findIdx? (Text.startsWith · "Random:seed") with
      | none => (lines, b || lines.any (Text.startsWith · "Random:setSeed = on"), false)
      | some i => (lines.set i seedLine,
          b || (lines.take i).any (Text.startsWith · "Random:setSeed = on"), true) := by
  fun_induction seedShowerCard.go seedLine lines b with
  | case1 b => simp
  | case2 l rest b b' hseed =>
    have hon : Text.startsWith l "Random:setSeed = on" = false := by
      rw [Bool.eq_false_iff]
      intro hon
      simp [not_seedLine_of_setSeed hon] at hseed
    rw [List.findIdx?_cons, if_pos hseed]
    simp [b', hon]
  | case3 l rest b b' hseed r s f hgo ih =>
    rw [hgo] at ih
    rw [List.findIdx?_cons, if_neg hseed]
    cases hi : rest.findIdx? (Text.startsWith · "Random:seed") with
    | none =>
      simp only [hi, Prod.mk.injEq] at ih
      obtain ⟨rfl, rfl, rfl⟩ := ih
      simp [b', Bool.or_assoc]
    | some i =>
      simp only [hi, Prod.mk.injEq] at ih
      obtain ⟨rfl, rfl, rfl⟩ := ih
      simp [b', Bool.or_assoc]

theorem seedShowerCard_seeded (lines : List String) (seed : String) :
    ShowerSeeded (seedShowerCard lines seed) seed := by
  have hon : Text.startsWith "Random:setSeed = on\n" "Random:setSeed = on" = true := by decide
  dsimp only [seedShowerCard]
  rw [seedShowerCard_go_eq]
  cases hi : lines.findIdx? (Text.startsWith · "Random:seed") with
  | none =>
    cases hany : lines.any (Text.startsWith · "Random:setSeed = on") with
    | false => exact ⟨by simp, _, by simp, hon⟩
    | true =>
      obtain ⟨l, hl, hlon⟩ := List.any_eq_true.1 hany
      exact ⟨by simp, l, by simp [hl], hlon⟩
  | some i =>
    obtain ⟨hlt, -⟩ := List.findIdx?_eq_some_iff_getElem.1 hi
    have hseed : ("Random:seed = " ++ seed ++ "\n") ∈ lines.set i ("Random:seed = " ++ seed ++ "\n") :=
      List.mem_iff_getElem.2 ⟨i, by simpa using hlt, by simp⟩
    cases hany : (lines.take i).any (Text.startsWith · "Random:setSeed = on") with
    | false => exact ⟨by simp [hany, hseed], _, by simp [hany], hon⟩
    | true =>
      obtain ⟨l, hl, hlon⟩ := List.any_eq_true.1 hany
      -- the lines before the replaced one stay as they were
      have hkept : l ∈ lines.set i ("Random:seed = " ++ seed ++ "\n") := by
        rw [← List.take_append_drop i (lines.set i _), List.take_set_of_le (le_refl i)]
        exact List.mem_append_left _ hl
      exact ⟨by simp [hany, hseed], l, by simp [hany, hkept], hlon⟩

/-! ## The seed line of a detector card -/

def DetectorSeeded (lines : List String) (seed : String) : Prop :=
  lines.find? (Text.startsWith · "set RandomSeed") = some ("set RandomSeed " ++ seed ++ "\n")

theorem startsWith_randomSeed (seed : String) :
    Text.startsWith ("set RandomSeed " ++ seed ++ "\n") "set RandomSeed" = true := by
  simp [Text.startsWith, Text.isPrefix]

theorem find?_set_of_findIdx? {α : Type} {p : α → Bool} {l : List α} {i : Nat} {x : α}
    (hi : l.findIdx? p = some i) (hx : p x = true) : (l.set i x).find? p = some x := by
  induction l generalizing i with
  | nil => simp at hi
  | cons a l ih =>
    rw [List.findIdx?_cons] at hi
    by_cases ha : p a = true
    · rw [if_pos ha] at hi
      cases hi
      simp [hx]
    · rw [if_neg ha] at hi
      obtain ⟨j, hj, rfl⟩ := Option.map_eq_some_iff.1 hi
      simp [ha, ih hj]

theorem seedDetectorCard_seeded (lines : List String) (seed : String) :
    DetectorSeeded (seedDetectorCard lines seed) seed := by
  dsimp only [seedDetectorCard, DetectorSeeded]
  cases hi : lines.findIdx? (Text.startsWith · "set RandomSeed") with
  | none => simp [startsWith_randomSeed]
  | some i => exact find?_set_of_findIdx? hi (startsWith_randomSeed seed)

/-! ## The cards a seeded launch writes -/

section Cards

variable {tree : FileTree} {root : String} {o : GeneratorOutput} {opts : LaunchOptions}

def outputText (tree : FileTree) (root : String) (o : GeneratorOutput) (path : String) : Outcome String :=
  tree.read (o.dir.child path) ((o.dir.child path).text root)

/-- What a shower card holds: when the caller gave a card naming pythia8, the last such
card's lines with the seed set, listed; else the output's default card with the seed
lines appended, unlisted. -/
def ShowerContent (tree : FileTree) (root : String) (o : GeneratorOutput) (opts : LaunchOptions)
    (seed : String) (c : CardFile) : Prop :=
  (∃ card text, lastCardNaming opts.cards "pythia8" = .ok (some card) ∧ readCard tree card = .ok text ∧
      c.content = String.join (seedShowerCard (FileTree.textLines text) seed) ∧ c.listed = true) ∨
    (lastCardNaming opts.cards "pythia8" = .ok none ∧
      ∃ text, outputText tree root o "Cards/pythia8_card_default.dat" = .ok text ∧
        c.content = text ++ "\n! Modified by hep-ml-lab\nRandom:setSeed = on\nRandom:seed = " ++ seed ++ "\n" ∧
        c.listed = false)

/-- What a detector card holds, listed either way: when the caller gave a card naming
delphes, the last such card's lines with the seed line set; else the seed line followed
by the output's default card. -/
def DetectorContent (tree : FileTree) (root : String) (o : GeneratorOutput) (opts : LaunchOptions)
    (seed : String) (c : CardFile) : Prop :=
  c.listed = true ∧
    ((∃ card text, lastCardNaming opts.cards "delphes" = .ok (some card) ∧ readCard tree card = .ok text ∧
        c.content = String.join (seedDetectorCard (FileTree.textLines text) seed)) ∨
      (lastCardNaming opts.cards "delphes" = .ok none ∧
        ∃ text, outputText tree root o "Cards/delphes_card_default.dat" = .ok text ∧
          c.content = "set RandomSeed " ++ seed ++ "\n" ++ text))

theorem showerCard_spec {seedText : String} {c : CardFile}
    (h : showerCard tree root o opts seedText = .ok c) :
    c.namePrefix = "pythia8_card_" ∧
      (∃ lines, c.content = String.join lines ∧ ShowerSeeded lines seedText) ∧
      ShowerContent tree root o opts seedText c := by
  unfold showerCard at h
  obtain ⟨found, hfound, h⟩ := Outcome.bind_eq_ok.1 h
  cases found with
  | none =>
    obtain ⟨text, htext, h⟩ := Outcome.bind_eq_ok.1 h
    cases h
    have hjoin : text ++ "\n! Modified by hep-ml-lab" ++ "\nRandom:setSeed = on\nRandom:seed = " ++ seedText ++
        "\n" = String.join [text ++ "\n! Modified by hep-ml-lab\n", "Random:setSeed = on\n",
          "Random:seed = " ++ seedText ++ "\n"] := by
      apply String.ext
      simp [String.toList_append]
    refine ⟨rfl, ⟨_, hjoin, by simp, "Random:setSeed = on\n", by simp, by decide⟩,
      .inr ⟨hfound, text, htext, by simp [String.append_assoc], rfl⟩⟩
  | some card =>
    obtain ⟨text, htext, h⟩ := Outcome.bind_eq_ok.1 h
    cases h
    exact ⟨rfl, ⟨_, rfl, seedShowerCard_seeded _ _⟩, .inl ⟨card, text, hfound, htext, rfl, rfl⟩⟩

theorem detectorCard_spec {seedText : String} {c : CardFile}
    (h : detectorCard tree root o opts seedText = .ok c) :
    c.namePrefix = "delphes_card_" ∧
      (∃ lines, c.content = String.join lines ∧ DetectorSeeded lines seedText) ∧
      DetectorContent tree root o opts seedText c := by
  unfold detectorCard at h
  obtain ⟨found, hfound, h⟩ := Outcome.bind_eq_ok.1 h
  cases found with
  | none =>
    obtain ⟨text, htext, h⟩ := Outcome.bind_eq_ok.1 h
    cases h
    refine ⟨rfl, ⟨["set RandomSeed " ++ seedText ++ "\n", text], by simp, ?_⟩,
      rfl, .inr ⟨hfound, text, htext, rfl⟩⟩
    simp [DetectorSeeded, startsWith_randomSeed]
  | some card =>
    obtain ⟨text, htext, h⟩ := Outcome.bind_eq_ok.1 h
    cases h
    exact ⟨rfl, ⟨_, rfl, seedDetectorCard_seeded _ _⟩, rfl, .inl ⟨card, text, hfound, htext, rfl⟩⟩

theorem cardIf_eq_ok {on : Bool} {card : Outcome CardFile} {cs : List CardFile}
    (h : cardIf on card = .ok cs) :
    (on = true → ∃ c, cs = [c] ∧ card = .ok c) ∧ (on = false → cs = []) := by
  unfold cardIf at h
  cases on with
  | false =>
    cases h
    simp
  | true =>
    rw [if_pos rfl] at h
    obtain ⟨c, hc, rfl⟩ := Outcome.map_eq_ok.1 h
    simp [hc]

theorem map_namePrefix_of_cardIf {on : Bool} {card : Outcome CardFile} {cs : List CardFile}
    {p : String} (h : cardIf on card = .ok cs) (hp : ∀ c, card = .ok c → c.namePrefix = p) :
    cs.map (·.namePrefix) = if on then [p] else [] := by
  cases on with
  | false => simp [(cardIf_eq_ok h).2 rfl]
  | true =>
    obtain ⟨c, rfl, hc⟩ := (cardIf_eq_ok h).1 rfl
    simp [hp c hc]

theorem seededCards_spec (hseed : opts.seed ≠ .none) {written : List CardFile}
    (h : seededCards tree root o opts = .ok written) :
    written.map (·.namePrefix) = (if opts.showerOn then ["pythia8_card_"] else []) ++
        (if opts.detectorOn then ["delphes_card_"] else []) ∧
      (opts.showerOn = true → ∃ c ∈ written, showerCard tree root o opts opts.seed.display = .ok c) ∧
      (opts.detectorOn = true →
        ∃ c ∈ written, detectorCard tree root o opts opts.seed.display = .ok c) := by
  unfold seededCards at h
  split at h
  · contradiction
  obtain ⟨shower, hshower, h⟩ := Outcome.bind_eq_ok.1 h
  obtain ⟨detector, hdetector, h⟩ := Outcome.bind_eq_ok.1 h
  cases h
  refine ⟨?_, fun hon => ?_, fun hon => ?_⟩
  · rw [List.map_append, map_namePrefix_of_cardIf hshower fun c hc => (showerCard_spec hc).1,
      map_namePrefix_of_cardIf hdetector fun c hc => (detectorCard_spec hc).1]
  · obtain ⟨c, rfl, hc⟩ := (cardIf_eq_ok hshower).1 hon
    exact ⟨c, by simp, hc⟩
  · obtain ⟨c, rfl, hc⟩ := (cardIf_eq_ok hdetector).1 hon
    exact ⟨c, by simp, hc⟩

end Cards

/-! ## The script -/

theorem cardLines_spec {written : List CardFile} {cards : Datum} {cardName : Nat → String}
    {names : List String} (h : cardLines written cards cardName = .ok names) :
    (0 < (written.filter (·.listed)).length →
        names = (List.range (written.filter (·.listed)).length).map cardName) ∧
      ((written.filter (·.listed)).length = 0 → cards.textItems = .ok names) := by
  dsimp only [cardLines] at h
  split at h
  · cases h
    exact ⟨fun _ => rfl, fun h0 => by omega⟩
  · exact ⟨fun hpos => by omega, fun _ => h⟩

theorem mem_assocSet {α : Type} (xs : List (String × α)) (k : String) (v : α) :
    (k, v) ∈ assocSet xs k v := by
  unfold assocSet
  split
  · next hany =>
    obtain ⟨e, he, hk⟩ := List.any_eq_true.1 hany
    exact List.mem_map.2 ⟨e, he, by simp [hk]⟩
  · simp

theorem iseed_mem_seededSettings {opts : LaunchOptions} (hseed : opts.seed ≠ .none) :
    ("iseed", opts.seed) ∈ opts.seededSettings := by
  unfold LaunchOptions.seededSettings
  split
  · contradiction
  · exact mem_assocSet _ _ _

theorem hasLine_settingsText {settings : List (String × Datum)} {kv : String × Datum}
    (hkv : kv ∈ settings) :
    HasLine ("\n" ++ settingsText settings) ("set " ++ kv.1 ++ " " ++ kv.2.display) := by
  unfold settingsText
  rw [if_neg (by simpa [List.isEmpty_iff] using List.ne_nil_of_mem hkv)]
  exact hasLine_intercalate (List.mem_map.2 ⟨kv, hkv, rfl⟩)

theorem launchScript_eq_ok {tree : FileTree} {root : String} {o : GeneratorOutput}
    {opts : LaunchOptions} {cardName : Nat → String} {script : LaunchScript}
    (h : launchScript tree root o opts cardName = .ok script) :
    seededCards tree root o opts = .ok script.cards ∧
      ∃ front names, cardLines script.cards opts.cards cardName = .ok names ∧
        script.commands = front ++ ("\n".intercalate names ++ "\n") ++ "done\n" ∧
        ∀ kv ∈ opts.seededSettings, HasLine front ("set " ++ kv.1 ++ " " ++ kv.2.display) := by
  unfold launchScript at h
  obtain ⟨decays, -, h⟩ := Outcome.bind_eq_ok.1 h
  obtain ⟨written, hwritten, h⟩ := Outcome.bind_eq_ok.1 h
  obtain ⟨names, hnames, h⟩ := Outcome.bind_eq_ok.1 h
  rw [Outcome.pure_eq_ok, Except.ok.injEq] at h
  subst h
  refine ⟨hwritten, scriptHead root o opts ++ settingsText opts.seededSettings ++ decays, names,
    hnames, rfl, fun kv hkv => ?_⟩
  -- the settings follow the line that closes the switch menu
  have hsettings : HasLine ("done\n" ++ settingsText opts.seededSettings)
      ("set " ++ kv.1 ++ " " ++ kv.2.display) := by
    rw [show ("done\n" : String) = "done" ++ "\n" by decide, String.append_assoc]
    exact (hasLine_settingsText hkv).append_left _
  unfold scriptHead
  rw [@String.append_assoc _ "done\n" _]
  exact (hsettings.append_left _).append_right _

/-! ## Seeded launches -/

/-- What the script of a seeded launch holds. -/
structure SeededScript (tree : FileTree) (root : String) (o : GeneratorOutput) (opts : LaunchOptions)
    (cardName : Nat → String) (script : LaunchScript) : Prop where
  /-- The seed is set as `iseed`. -/
  iseed : HasLine script.commands ("set iseed " ++ opts.seed.display)
  /-- The shower card is written when the shower is on, then the detector card when the
  detector is on, and nothing else. -/
  written : script.cards.map (·.namePrefix) =
    (if opts.showerOn then ["pythia8_card_"] else []) ++
      (if opts.detectorOn then ["delphes_card_"] else [])
  /-- The shower card carries the seed; it is the caller's card, listed, or the
  default one, not. -/
  shower : opts.showerOn = true → ∃ c ∈ script.cards, c.namePrefix = "pythia8_card_" ∧
    (∃ lines, c.content = String.join lines ∧ ShowerSeeded lines opts.seed.display) ∧
    ShowerContent tree root o opts opts.seed.display c
  /-- The detector card sets the seed first; it is the caller's card or the default one,
  listed. -/
  detector : opts.detectorOn = true → ∃ c ∈ script.cards, c.namePrefix = "delphes_card_" ∧
    (∃ lines, c.content = String.join lines ∧ DetectorSeeded lines opts.seed.display) ∧
    DetectorContent tree root o opts opts.seed.display c
  /-- The card lines close the script: the listed files by name, or else the given cards. -/
  lines : ∃ front names, script.commands = front ++ ("\n".intercalate names ++ "\n") ++ "done\n" ∧
    (0 < (script.cards.filter (·.listed)).length →
      names = (List.range (script.cards.filter (·.listed)).length).map cardName) ∧
    ((script.cards.filter (·.listed)).length = 0 → opts.cards.textItems = .ok names)

/-- A seeded launch sets `iseed`, writes for each stage that is on the chosen card or the
default one with the seed set, and lists the detector card always but the shower card
only when the caller gave one. -/
theorem seeded_launch_lists_cards (tree : FileTree) (root : String) (o : GeneratorOutput)
    (opts : LaunchOptions) (cardName : Nat → String) (script : LaunchScript)
    (hseed : opts.seed ≠ .none) (h : launchScript tree root o opts cardName = .ok script) :
    SeededScript tree root o opts cardName script := by
  obtain ⟨hwritten, front, names, hnames, hcommands, hsettings⟩ := launchScript_eq_ok h
  obtain ⟨hprefixes, hshower, hdetector⟩ := seededCards_spec hseed hwritten
  refine ⟨?_, hprefixes, fun hon => ?_, fun hon => ?_, front, names, hcommands,
    cardLines_spec hnames⟩
  · have hiseed := hsettings _ (iseed_mem_seededSettings hseed)
    rw [show "set " ++ "iseed" ++ " " ++ opts.seed.display = "set iseed " ++ opts.seed.display by
      simp] at hiseed
    rw [hcommands]
    exact (hiseed.append_right _).append_right _
  · obtain ⟨c, hc, hcard⟩ := hshower hon
    exact ⟨c, hc, showerCard_spec hcard⟩
  · obtain ⟨c, hc, hcard⟩ := hdetector hon
    exact ⟨c, hc, detectorCard_spec hcard⟩

def defaultShowerTree : FileTree :=
  ⟨[(["proc", "Cards", "pythia8_card_default.dat"],
    "! default pythia8 card\nMain:numberOfEvents = -1\n")], []⟩

def procOutput : GeneratorOutput := ⟨⟨["proc"], true⟩⟩

def seededShower : LaunchOptions := { shower := .str "pythia8", seed := .int 1 }

/-- Without a shower card of the caller's, the seeded copy of the default card is written
and not listed, and no card line names a file. -/
theorem seeded_launch_lists_cards_defaultShower :
    ∃ script, launchScript defaultShowerTree "$TMP" procOutput seededShower
        Command.cardFileName = .ok script ∧
      (∃ c ∈ script.cards, c.namePrefix = "pythia8_card_" ∧ c.listed = false) ∧
      script.cards.filter (·.listed) = [] := by
  obtain ⟨script, hrun⟩ := Outcome.exists_eq_ok_of_isOk (x := launchScript defaultShowerTree
    "$TMP" procOutput seededShower Command.cardFileName) (by decide +kernel)
  have hseeded := seeded_launch_lists_cards defaultShowerTree "$TMP" procOutput seededShower
    Command.cardFileName script (by simp [seededShower]) hrun
  -- the caller gave no cards, so none names the shower
  have hnone : lastCardNaming seededShower.cards "pythia8" = .ok none := rfl
  obtain ⟨c, hc, hprefix, -, hcontent⟩ := hseeded.shower rfl
  have hunlisted : c.listed = false := by
    rcases hcontent with ⟨card, -, hcard, -⟩ | ⟨-, -, -, -, hl⟩
    · rw [hnone] at hcard
      cases hcard
    · exact hl
  -- the shower card is the only one written
  have honly : script.cards = [c] := by
    have hmap : script.cards.map (·.namePrefix) = ["pythia8_card_"] := by
      simpa [seededShower, LaunchOptions.showerOn, LaunchOptions.detectorOn] using hseeded.written
    obtain ⟨c', hc', -⟩ := List.map_eq_singleton_iff.1 hmap
    rw [hc', List.mem_singleton] at hc
    rw [hc', hc]
  refine ⟨script, hrun, ⟨c, hc, hprefix, hunlisted⟩, ?_⟩
  rw [honly]
  simp [hunlisted]

/-- The script of that launch names no card file: the seed never reaches the shower. -/
theorem seeded_default_shower_card_unlisted :
    (launchScript defaultShowerTree "$TMP" procOutput seededShower Command.cardFileName).toOption.map
        (·.commands) =
      some ("launch -i $TMP/proc\ngenerate_events\nshower=pythia8\ndetector=off\nmadspin=off\n" ++
        "done\nset iseed 1\n\ndone\n") := by
  decide +kernel

end LaunchSeeding

end ColliderML
