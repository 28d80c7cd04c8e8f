import ColliderML.Proofs.Generator.Launch

/-!
# Dry launches in a row

A dry launch writes one object at most: its settings dict, where a seed is set as `iseed`.
The dict a caller passes keeps that entry after the call; so does the default dict of a
call that passes none, and that dict is the one every later call passing none reads. Two
launches in a row are independent as far as the second reads nothing the first wrote, and
no further: a second launch without a seed, on the settings dict a seeded launch has just
written, sets the first launch's seed.

Main statements: `read_dryLaunch_of_ne` (the frame of one launch),
`dryLaunch_after_of_unread` (the second launch as if alone) and
`hasLine_iseed_after_seeded` (the seed carried over), put together in
`dry_launches_share_seeded_settings`.
-/

namespace ColliderML

open LaunchSeeding

namespace LaunchCall

variable (a : LaunchCall) (s : List (String × Datum))

@[simp] theorem seededSettings_options (d c : Datum) :
    (a.options s d c).seededSettings = a.seeded s := rfl

theorem seeded_of_none (hseed : a.seed = .none) : a.seeded s = s := by
  simp only [seeded, LaunchOptions.seededSettings, options, hseed]

theorem seeded_of_ne_none (hseed : a.seed ≠ .none) : a.seeded s = assocSet s "iseed" a.seed := by
  unfold seeded LaunchOptions.seededSettings
  split
  · next hd => exact absurd hd hseed
  · rfl

theorem iseed_mem_seeded (hseed : a.seed ≠ .none) : ("iseed", a.seed) ∈ a.seeded s := by
  rw [seeded_of_ne_none a s hseed]
  exact mem_assocSet s "iseed" a.seed

theorem writeSeed_eq {h : Heap} (hs : h.read a.settings = .dict s) :
    a.writeSeed h s = h.write a.settings (.dict (a.seeded s)) := by
  unfold writeSeed
  split
  · next hseed => rw [seeded_of_none a s hseed, ← hs, Heap.write_read_self]
  · rfl

end LaunchCall

section Launch

variable {tree : FileTree} {root : String} {o : GeneratorOutput} {cardName : Nat → String}

theorem dryLaunch_of_dict {h : Heap} {a : LaunchCall} {s : List (String × Datum)}
    (hs : h.read a.settings = .dict s) :
    dryLaunch tree root o cardName h a =
      (launchScript tree root o
          (a.options s ((h.write a.settings (.dict (a.seeded s))).read a.decays)
            ((h.write a.settings (.dict (a.seeded s))).read a.cards)) cardName,
        h.write a.settings (.dict (a.seeded s))) := by
  rw [← a.writeSeed_eq s hs]
  simp only [dryLaunch, hs]

theorem dryLaunch_of_not_dict {h : Heap} {a : LaunchCall}
    (hs : ∀ s, h.read a.settings ≠ .dict s) :
    dryLaunch tree root o cardName h a = (.error (a.settingsError (h.read a.settings)), h) := by
  unfold dryLaunch
  split
  · next s hd => exact absurd hd (hs s)
  · rfl

theorem dryLaunch_heap (h : Heap) (a : LaunchCall) :
    (dryLaunch tree root o cardName h a).2 = h ∨
      ∃ s, h.read a.settings = .dict s ∧
        (dryLaunch tree root o cardName h a).2 = h.write a.settings (.dict (a.seeded s)) := by
  by_cases hd : ∃ s, h.read a.settings = .dict s
  · obtain ⟨s, hs⟩ := hd
    exact .inr ⟨s, hs, by rw [dryLaunch_of_dict hs]⟩
  · simp only [not_exists] at hd
    exact .inl (by rw [dryLaunch_of_not_dict hd])

theorem read_dryLaunch_of_ne (h : Heap) (a : LaunchCall) {addr : Nat} (hne : addr ≠ a.settings) :
    (dryLaunch tree root o cardName h a).2.read addr = h.read addr := by
  rcases dryLaunch_heap h a with heq | ⟨s, -, heq⟩
  · rw [heq]
  · rw [heq, Heap.read_write_of_ne _ _ hne]

theorem dryLaunch_heap_of_none (h : Heap) (a : LaunchCall) (hseed : a.seed = .none) :
    (dryLaunch tree root o cardName h a).2 = h := by
  rcases dryLaunch_heap h a with heq | ⟨s, hs, heq⟩
  · exact heq
  · rw [heq, a.seeded_of_none s hseed, ← hs, Heap.write_read_self]

theorem dryLaunch_congr {h h' : Heap} {a : LaunchCall}
    (hread : ∀ addr ∈ a.objects, h.read addr = h'.read addr) :
    (dryLaunch tree root o cardName h a).1 = (dryLaunch tree root o cardName h' a).1 := by
  have hset : h.read a.settings = h'.read a.settings := hread _ (by simp [LaunchCall.objects])
  -- the decays and cards are read after the seed is written, on both heaps alike
  have hafter : ∀ addr ∈ a.objects, ∀ v,
      (h.write a.settings v).read addr = (h'.write a.settings v).read addr := by
    intro addr hmem v
    by_cases heq : addr = a.settings
    · simp [heq]
    · simp [heq, hread addr hmem]
  by_cases hd : ∃ s, h.read a.settings = .dict s
  · obtain ⟨s, hs⟩ := hd
    rw [dryLaunch_of_dict hs, dryLaunch_of_dict (hset ▸ hs),
      hafter a.decays (by simp [LaunchCall.objects]), hafter a.cards (by simp [LaunchCall.objects])]
  · simp only [not_exists] at hd
    have hd' : ∀ s, h'.read a.settings ≠ .dict s := fun s => hset ▸ hd s
    rw [dryLaunch_of_not_dict hd, dryLaunch_of_not_dict hd', hset]

theorem dryLaunch_after_of_unread (h : Heap) (a₁ a₂ : LaunchCall)
    (hfree : a₁.seed = .none ∨ a₁.settings ∉ a₂.objects) :
    (dryLaunch tree root o cardName (dryLaunch tree root o cardName h a₁).2 a₂).1 =
      (dryLaunch tree root o cardName h a₂).1 := by
  rcases hfree with hseed | hunread
  · rw [dryLaunch_heap_of_none h a₁ hseed]
  · apply dryLaunch_congr
    intro addr hmem
    exact read_dryLaunch_of_ne h a₁ fun heq => hunread (heq ▸ hmem)

theorem hasLine_of_mem_seeded {h : Heap} {a : LaunchCall} {s : List (String × Datum)}
    (hs : h.read a.settings = .dict s) {script : LaunchScript}
    (hrun : (dryLaunch tree root o cardName h a).1 = .ok script) {kv : String × Datum}
    (hkv : kv ∈ a.seeded s) :
    HasLine script.commands ("set " ++ kv.1 ++ " " ++ kv.2.display) := by
  rw [dryLaunch_of_dict hs] at hrun
  obtain ⟨-, front, names, -, hcommands, hsettings⟩ := launchScript_eq_ok hrun
  rw [hcommands]
  exact ((hsettings kv (by simpa using hkv)).append_right _).append_right _

theorem hasLine_iseed_after_seeded (h : Heap) (a₁ a₂ : LaunchCall) {s : List (String × Datum)}
    (hs : h.read a₁.settings = .dict s) (hseed : a₁.seed ≠ .none)
    (hshare : a₂.settings = a₁.settings) (hnone : a₂.seed = .none) {script : LaunchScript}
    (hrun : (dryLaunch tree root o cardName (dryLaunch tree root o cardName h a₁).2 a₂).1 =
      .ok script) :
    HasLine script.commands ("set iseed " ++ a₁.seed.display) := by
  have hwritten : (dryLaunch tree root o cardName h a₁).2.read a₂.settings =
      .dict (a₁.seeded s) := by
    rw [dryLaunch_of_dict hs, hshare, Heap.read_write_self]
  -- the second launch writes no seed of its own over the first one's
  have hkept : ("iseed", a₁.seed) ∈ a₂.seeded (a₁.seeded s) := by
    rw [a₂.seeded_of_none _ hnone]
    exact a₁.iseed_mem_seeded s hseed
  have hline := hasLine_of_mem_seeded hwritten hrun hkept
  rwa [show "set " ++ "iseed" ++ " " ++ a₁.seed.display = "set iseed " ++ a₁.seed.display by
    simp] at hline

end Launch

/-- Two dry launches in a row on one output directory. The first writes one object at most,
its settings dict, where it leaves its seed as `iseed`: the dict the caller passes, or the
default dict every call that passes none shares. The second launch writes the script it
would write alone unless the first had a seed and the second reads that dict; a second
launch without a seed, on the same settings dict, sets the first one's seed. -/
theorem dry_launches_share_seeded_settings (tree : FileTree) (root : String)
    (o : GeneratorOutput) (cardName : Nat → String) (h : Heap) (a₁ a₂ : LaunchCall)
    (s : List (String × Datum)) (hs : h.read a₁.settings = .dict s) :
    (dryLaunch tree root o cardName h a₁).2 = h.write a₁.settings (.dict (a₁.seeded s)) ∧
      (a₁.seed ≠ .none → ("iseed", a₁.seed) ∈ a₁.seeded s) ∧
      (a₁.seed = .none ∨ a₁.settings ∉ a₂.objects →
        (dryLaunch tree root o cardName (dryLaunch tree root o cardName h a₁).2 a₂).1 =
          (dryLaunch tree root o cardName h a₂).1) ∧
      (a₁.seed ≠ .none → a₂.settings = a₁.settings → a₂.seed = .none → ∀ script,
        (dryLaunch tree root o cardName (dryLaunch tree root o cardName h a₁).2 a₂).1 =
          .ok script →
        HasLine script.commands ("set iseed " ++ a₁.seed.display)) := by
  refine ⟨by rw [dryLaunch_of_dict hs], a₁.iseed_mem_seeded s, dryLaunch_after_of_unread h a₁ a₂,
    fun hseed hshare hnone script hrun => ?_⟩
  exact hasLine_iseed_after_seeded h a₁ a₂ hs hseed hshare hnone hrun

/-! ## Launches that leave their settings out -/

/-- The launch function as it is made, at the addresses the driver gives its defaults, and
an empty dict of the caller's at address 3. -/
def callerHeap : Heap := ⟨fun addr => if addr = 0 ∨ addr = 3 then .dict [] else .list []⟩

def seededOmitting : LaunchCall := { LaunchCall.omitting Command.launchDefaults with seed := .int 1 }

/-- `launch(seed=1, dry=True)` and then `launch(dry=True)` on an output directory, with the
launch function as it is made: the second script sets the seed of the first. -/
theorem dry_launches_share_seeded_settings_omitted :
    Command.launchDefaults.Made callerHeap ∧
      ∃ script, (dryLaunch ⟨[], []⟩ "$TMP" procOutput Command.cardFileName
          (dryLaunch ⟨[], []⟩ "$TMP" procOutput Command.cardFileName callerHeap seededOmitting).2
          (LaunchCall.omitting Command.launchDefaults)).1 = .ok script ∧
        HasLine script.commands "set iseed 1" := by
  obtain ⟨script, hrun⟩ := Outcome.exists_eq_ok_of_isOk
    (x := (dryLaunch ⟨[], []⟩ "$TMP" procOutput Command.cardFileName
      (dryLaunch ⟨[], []⟩ "$TMP" procOutput Command.cardFileName callerHeap seededOmitting).2
      (LaunchCall.omitting Command.launchDefaults)).1) (by decide +kernel)
  have hline := (dry_launches_share_seeded_settings ⟨[], []⟩ "$TMP" procOutput Command.cardFileName
    callerHeap seededOmitting (LaunchCall.omitting Command.launchDefaults) [] rfl).2.2.2
    (by simp [seededOmitting]) rfl rfl script hrun
  exact ⟨⟨rfl, rfl, rfl⟩, script, hrun, hline⟩

/-- Dry launches do interfere: after `launch(seed=1, dry=True)`, `launch(dry=True)` sets seed 1,
which it does not when it runs alone; and `launch(settings=d, seed=1, dry=True)` leaves the
caller's empty dict `d` holding `iseed`. -/
theorem second_dry_launch_keeps_first_seed :
    (dryLaunch ⟨[], []⟩ "$TMP" procOutput Command.cardFileName
        (dryLaunch ⟨[], []⟩ "$TMP" procOutput Command.cardFileName callerHeap seededOmitting).2
        (LaunchCall.omitting Command.launchDefaults)).1.toOption.map (·.commands) =
      some ("launch -i $TMP/proc\ngenerate_events\nshower=off\ndetector=off\nmadspin=off\n" ++
        "done\nset iseed 1\n\ndone\n") ∧
    (dryLaunch ⟨[], []⟩ "$TMP" procOutput Command.cardFileName callerHeap
        (LaunchCall.omitting Command.launchDefaults)).1.toOption.map (·.commands) =
      some "launch -i $TMP/proc\ngenerate_events\nshower=off\ndetector=off\nmadspin=off\ndone\n\ndone\n" ∧
    (dryLaunch ⟨[], []⟩ "$TMP" procOutput Command.cardFileName callerHeap
        { seededOmitting with settings := 3 }).2.read 3 = .dict [("iseed", .int 1)] :=
  ⟨by decide +kernel, by decide +kernel, rfl⟩

end ColliderML
