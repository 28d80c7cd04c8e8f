import Mathlib
import ColliderML.Proofs.Observable.RoundTrip
import ColliderML.Dataset.Basic

/-!
# Building a dataset's set or image again from its configuration

A saved dataset keeps the configuration of its set or image, and loading builds
them anew from it. An observable read from a name under the shipped table is
built back as it was from its configuration (`ofConfig_of_parse`). So a set of
such observables is rebuilt unchanged, and an image with such axes is rebuilt
with the configuration it had, binned as it was (`rebuilt_of_parsed`).
-/

namespace ColliderML

namespace Observable

theorem ofConfig_of_parse {s : String} {kw : List (String × ObjectArg)} {o : Observable}
    (h : parse AliasTable.shipped s kw = .ok (some o)) :
    o.kind ≠ .generic ∧ ofConfig o.kind o.config.fields = .ok o := by
  obtain ⟨kind, ks, po, cn, p, counts, -, hkind, hks, hread, hadmits, hparams, -, rfl⟩ :=
    parse_shipped_eq_ok h
  have hcn : cn ≠ "" := by
    rintro rfl
    rw [classKind_shipped_empty] at hkind
    cases hkind
  have htruthy : (Datum.str cn).truthy = true := by simpa [Datum.truthy] using hcn
  have hgen := ne_generic_of_classKind hkind
  exact ⟨hgen, ofConfig_created hgen hks
    (PhysicsObject.ofName_name (PhysicsObject.readable_of_ofName hread)) hadmits hparams htruthy⟩

end Observable

namespace ObservableKind

theorem ofClassName?_className (k : ObservableKind) : ofClassName? k.className = some k := by
  cases k <;> rfl

private theorem shipped_find?_all :
    all.all (fun k => AliasTable.shipped.find? k.className == some k) = true := by
  decide +kernel

theorem shipped_find?_className {k : ObservableKind} (hk : k ≠ .generic) :
    AliasTable.shipped.find? k.className = some k := by
  have hmem : k ∈ all := by cases k <;> simp_all [all]
  simpa using List.all_eq_true.mp shipped_find?_all k hmem

end ObservableKind

namespace ObservableArg

def Parsed (a : ObservableArg) : Prop :=
  ∃ o s kw, a = .observable o ∧ Observable.parse AliasTable.shipped s kw = .ok (some o)

theorem Parsed.classConfig_eq_ok {a : ObservableArg} (h : a.Parsed) : ∃ d, a.classConfig = .ok d := by
  obtain ⟨o, -, -, rfl, -⟩ := h
  exact ⟨_, rfl⟩

end ObservableArg

theorem Image.rebuildAxis_parsed {a : ObservableArg} (h : a.Parsed) : Image.rebuildAxis a = .ok a := by
  obtain ⟨o, s, kw, rfl, hparse⟩ := h
  obtain ⟨-, hconfig⟩ := Observable.ofConfig_of_parse hparse
  simp [Image.rebuildAxis, ObservableKind.ofClassName?_className, hconfig]

theorem ObservableSet.rebuildMember_parsed {a : ObservableArg} (h : a.Parsed) :
    ObservableSet.rebuildMember AliasTable.shipped a = .ok a := by
  obtain ⟨o, s, kw, rfl, hparse⟩ := h
  obtain ⟨hgen, hconfig⟩ := Observable.ofConfig_of_parse hparse
  simp [ObservableSet.rebuildMember, ObservableArg.config, ObservableArg.className,
    ObservableKind.shipped_find?_className hgen, hconfig]

namespace ObservableSet

theorem config_parsed {s : ObservableSet} (h : ∀ m ∈ s.members, m.Parsed) :
    ∃ d, s.config = .ok d := by
  unfold config
  obtain ⟨entries, hentries⟩ := @Outcome.exists_mapM_eq_ok _ _
    (fun (x : Nat × ObservableArg) => (do
      let c ← x.2.classConfig
      pure (toString x.1, c) : Outcome (String × Datum)))
    ((List.range s.members.length).zip s.members)
    (fun x hx => by
      obtain ⟨d, hd⟩ := (h x.2 (List.of_mem_zip hx).2).classConfig_eq_ok
      exact ⟨_, by rw [hd]; rfl⟩)
  exact ⟨_, by rw [hentries]; rfl⟩

theorem rebuild_parsed {s : ObservableSet} (h : ∀ m ∈ s.members, m.Parsed) :
    s.rebuild AliasTable.shipped = .ok s := by
  obtain ⟨d, hd⟩ := config_parsed h
  have hmembers : s.members.mapM (rebuildMember AliasTable.shipped) = .ok s.members := by
    simpa using Outcome.mapM_map_eq_ok (g := id) (fun m hm => rebuildMember_parsed (h m hm))
  simp [rebuild, hd, hmembers]

end ObservableSet

theorem Bins.restore_of_toConfig {b : Bins} {m : String} {d : Datum} (h : b.toConfig m = .ok d) :
    b.restore = b := by
  cases b <;> simp_all [Bins.toConfig, Bins.restore]

namespace Image

theorem channel_of_hasChannel {img : Image} (h : img.hasChannel = false) :
    img.channel = .value .none := by
  unfold hasChannel at h
  split at h
  · assumption
  · cases h

theorem config_congr {i i' : Image} (hh : i'.height = i.height) (hw : i'.width = i.width)
    (hc : i'.channel = i.channel) (hp : i'.beenPixelated = i.beenPixelated)
    (hs : i'.steps = i.steps)
    (hb : i.pixelated = true → i'.wBins = i.wBins ∧ i'.hBins = i.hBins) :
    i'.config = i.config := by
  have hpix : i'.pixelated = i.pixelated := by simp [pixelated, hp]
  have hch : i'.hasChannel = i.hasChannel := by simp [hasChannel, hc]
  unfold config
  rw [hh, hw, hc, hp, hs, hpix, hch]
  cases hpx : i.pixelated
  · rfl
  · obtain ⟨hwb, hhb⟩ := hb hpx
    rw [hwb, hhb]

theorem restore_bins_of_config {img : Image} {d : Datum} (hc : img.config = .ok d)
    (hpx : img.pixelated = true) : img.wBins.restore = img.wBins ∧ img.hBins.restore = img.hBins := by
  unfold config at hc
  cases hhc : img.hasChannel <;>
    simp only [hhc, hpx, if_true, Bool.false_eq_true, if_false, Outcome.bind_eq_ok,
      Outcome.pure_eq_ok] at hc <;>
    obtain ⟨_, -, _, -, _, -, _, hwb, _, hhb, -⟩ := hc <;>
    exact ⟨Bins.restore_of_toConfig hwb, Bins.restore_of_toConfig hhb⟩

theorem rebuild_parsed {img : Image} (hh : img.height.Parsed) (hw : img.width.Parsed)
    (hch : img.hasChannel = true → img.channel.Parsed) {d : Datum} (hc : img.config = .ok d) :
    ∃ img', img.rebuild = .ok img' ∧ img'.config = img.config ∧ img'.pixelated = img.pixelated := by
  -- the axes come back, the listed operations wait for the next read
  have hrebuild : img.rebuild = .ok
      { height := img.height, width := img.width, channel := img.channel, registered := img.steps,
        beenPixelated := img.beenPixelated,
        hBins := if img.pixelated then img.hBins.restore else .none,
        wBins := if img.pixelated then img.wBins.restore else .none } := by
    cases hhc : img.hasChannel
    · simp [rebuild, hc, rebuildAxis_parsed hh, rebuildAxis_parsed hw, hhc]
      rw [channel_of_hasChannel hhc]
    · simp [rebuild, hc, rebuildAxis_parsed hh, rebuildAxis_parsed hw, hhc,
        rebuildAxis_parsed (hch hhc)]
  refine ⟨_, hrebuild, ?_, rfl⟩
  refine config_congr (i := img) rfl rfl rfl rfl rfl ?_
  intro hpx
  simp only [hpx, if_true]
  exact restore_bins_of_config hc hpx

end Image

namespace Layout

def Parsed : Layout → Prop
  | .set s => ∀ m ∈ s.members, m.Parsed
  | .image img =>
    img.height.Parsed ∧ img.width.Parsed ∧ (img.hasChannel = true → img.channel.Parsed)

/-- A layout built again from another: of the same kind and configuration, and
for an image binned as it was. -/
def Rebuilds (L' L : Layout) : Prop :=
  L'.config = L.config ∧
    match L', L with
    | .set _, .set _ => True
    | .image i', .image i => i'.pixelated = i.pixelated
    | _, _ => False

theorem rebuilt_parsed {L : Layout} (hp : L.Parsed) {d : Datum} (hc : L.config = .ok d) :
    ∃ L', L.rebuilt AliasTable.shipped = .ok L' ∧ L'.Rebuilds L := by
  cases L with
  | set s => exact ⟨.set s, by simp [rebuilt, ObservableSet.rebuild_parsed hp], rfl, trivial⟩
  | image img =>
    obtain ⟨hh, hw, hch⟩ := hp
    obtain ⟨img', himg, hconfig, hpix⟩ := Image.rebuild_parsed hh hw hch hc
    exact ⟨.image img', by simp [rebuilt, himg], hconfig, hpix⟩

end Layout

end ColliderML
