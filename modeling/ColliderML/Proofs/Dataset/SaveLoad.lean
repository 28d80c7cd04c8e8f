import Mathlib
import ColliderML.Proofs.Dataset.Reload

/-!
# Saving a dataset and loading it again

Saving a dataset saves its store, then, once it is split, its training, test
and validation parts as the dataset sees them, the first two of which must be
there; loading builds the store and every saved part again from what was
saved. Both walk the parts one by one, and no part's saving or loading looks
at another: `saveParts_snd` and `foldlM_loadPart_eq_ok` say so.

So the round trip is the round trip of each store (`Store.save_load_reloads`)
taken together: for a dataset as reads and splits leave it, saving and loading
succeed exactly when the store and every part save, and the loaded dataset
then has the class, configuration, targets and samples of the saved one, the
samples element by element, part for part (`saveLoad_roundTrip`). A dataset
whose heights and widths differ in shape cannot be saved at all
(`saveLoad_fails_on_ragged_pair`).
-/

namespace ColliderML

namespace Store

@[simp] theorem sharesImage_load (L : Layout) (lazy : Bool) (f : Saved) :
    (load L lazy f).sharesImage = false := by
  cases lazy <;> cases L <;> rfl

theorem layout_config_of_config {X : Store} {b s d : Datum} (h : X.config b s = .ok d) :
    ∃ d', X.layout.config = .ok d' := by
  obtain ⟨d', hd', -⟩ := Outcome.bind_eq_ok.mp h
  exact ⟨d', hd'⟩

theorem rebuilt_of_save {X : Store} (hk : X.Kept) {b s : Datum} {f : Saved}
    (h : (X.save b s).2 = .ok f) :
    ∃ L', X.layout.rebuilt AliasTable.shipped = .ok L' ∧ L'.Rebuilds X.layout := by
  obtain ⟨⟨d, hc⟩, -, -⟩ := (save_eq_ok_iff hk.unsaved).mp h
  obtain ⟨d', hd'⟩ := layout_config_of_config hc
  exact Layout.rebuilt_parsed hk.parsed hd'

end Store

namespace Layout

theorem parsed_image_iff {i j : Image} (h : i.observables = j.observables) :
    (Layout.image i).Parsed ↔ (Layout.image j).Parsed := by
  obtain ⟨hh, hw, hc⟩ : i.height = j.height ∧ i.width = j.width ∧ i.channel = j.channel := by
    simpa [Image.observables] using h
  simp only [Parsed, Image.hasChannel, hh, hw, hc]

end Layout

namespace Dataset

variable {ds ds' : Dataset} {p q : PartName}

/-! ## Parts -/

@[simp] theorem part_setPart_self (st : Option Store) : (ds.setPart p st).part p = st := by
  cases p <;> rfl

theorem part_setPart_of_ne (st : Option Store) (h : q ≠ p) : (ds.setPart p st).part q = ds.part q := by
  revert h
  cases p <;> cases q <;> simp [setPart, part]

@[simp] theorem store_setPart (st : Option Store) : (ds.setPart p st).store = ds.store := by
  cases p <;> rfl

@[simp] theorem beenSplit_setPart (st : Option Store) : (ds.setPart p st).beenSplit = ds.beenSplit := by
  cases p <;> rfl

@[simp] theorem seed_setPart (st : Option Store) : (ds.setPart p st).seed = ds.seed := by
  cases p <;> rfl

theorem view_congr (h : ds.store.layout = ds'.store.layout) : ds.view = ds'.view := by
  funext st
  simp only [view, h]

theorem savePart_congr (h : ds.store.layout = ds'.store.layout) : ds.savePart = ds'.savePart := by
  funext st
  simp only [savePart, view_congr h]

/-! ## Saving the parts -/

theorem savePart_snd (st : Store) : (ds.savePart st).2 =
    ((ds.view st).save (.bool false) .none).2.map
      fun f => (((ds.view st).save (.bool false) .none).1.layout, f) := by
  simp only [savePart]
  rcases ((ds.view st).save (.bool false) .none).2 with e | f <;> rfl

theorem view_savePart {st : Store} (h : (ds.view st).saved = none) :
    ds.view (ds.savePart st).1 = ((ds.view st).save (.bool false) .none).1 := by
  obtain ⟨r, hsave⟩ := Store.save_of_saved h (.bool false) .none
  simp only [savePart, hsave]
  obtain ⟨L, samples, targets, saved, beenRead, sharesImage⟩ := st
  cases sharesImage <;> rfl

theorem layout_save_view {st : Store} (h : (ds.view st).saved = none) :
    ((ds.view st).save (.bool false) .none).1.layout = (ds.view st).layout := by
  obtain ⟨r, hsave⟩ := Store.save_of_saved h (.bool false) .none
  rw [hsave]

theorem savePart_eq_ok {st : Store} {lf : Layout × Saved} (hs : (ds.view st).saved = none)
    (h : (ds.savePart st).2 = .ok lf) :
    lf.1 = (ds.view st).layout ∧ ((ds.view st).save (.bool false) .none).2 = .ok lf.2 := by
  rw [savePart_snd, layout_save_view hs] at h
  obtain ⟨f, hf, rfl⟩ := Outcome.map_eq_ok.mp h
  exact ⟨rfl, hf⟩

/-- What saving a part adds to the list of saved parts: nothing for a missing
validation part, else the layout and file of the part as the dataset sees it. -/
def partEntry (ds : Dataset) (p : PartName) : Outcome (List (PartName × Layout × Saved)) :=
  match ds.part p with
  | none => if p == .val then .ok [] else .error (.noMember "NoneType" "save")
  | some st => (ds.savePart st).2.map fun lf => [(p, lf)]

theorem partEntry_congr (hs : ds.store.layout = ds'.store.layout) (hp : ds.part q = ds'.part q) :
    partEntry ds q = partEntry ds' q := by
  simp only [partEntry, hp, savePart_congr hs]

theorem saveNext_snd (acc : Dataset × Outcome (List (PartName × Layout × Saved))) (p : PartName) :
    (saveNext acc p).2 = (do
      let done ← acc.2
      let x ← partEntry acc.1 p
      pure (done ++ x)) := by
  obtain ⟨ds, _ | done⟩ := acc
  · rfl
  · simp only [saveNext, partEntry, Outcome.ok_bind]
    rcases hp : ds.part p with _ | st
    · by_cases hv : p = .val <;> simp [hv]
    · dsimp only
      rcases ds.savePart st with ⟨st', _ | lf⟩ <;> rfl

theorem store_saveNext (acc : Dataset × Outcome (List (PartName × Layout × Saved))) (p : PartName) :
    (saveNext acc p).1.store = acc.1.store := by
  obtain ⟨ds, _ | done⟩ := acc
  · rfl
  · simp only [saveNext]
    split
    · split <;> rfl
    · split <;> simp

theorem part_saveNext_of_ne (acc : Dataset × Outcome (List (PartName × Layout × Saved)))
    (h : q ≠ p) : (saveNext acc p).1.part q = acc.1.part q := by
  obtain ⟨ds, _ | done⟩ := acc
  · rfl
  · simp only [saveNext]
    split
    · split <;> rfl
    · split <;> simp [part_setPart_of_ne _ h]

@[simp] theorem setPart_part (ds : Dataset) (p : PartName) : ds.setPart p (ds.part p) = ds := by
  cases p <;> rfl

def savedPart (ds : Dataset) (p : PartName) : Option Store :=
  (ds.part p).map fun st => (ds.savePart st).1

theorem savedPart_congr (hs : ds.store.layout = ds'.store.layout) (hp : ds.part q = ds'.part q) :
    ds.savedPart q = ds'.savedPart q := by
  simp only [savedPart, hp, savePart_congr hs]

theorem partEntry_eq_ok {l : List (PartName × Layout × Saved)} (h : partEntry ds p = .ok l) :
    (ds.part p = none ∧ l = []) ∨
      ∃ st lf, ds.part p = some st ∧ (ds.savePart st).2 = .ok lf ∧ l = [(p, lf)] := by
  unfold partEntry at h
  rcases hp : ds.part p with _ | st <;> simp only [hp] at h
  · by_cases hv : p = .val <;> simp [hv] at h
    exact .inl ⟨rfl, h⟩
  · obtain ⟨lf, hlf, hl⟩ := Outcome.map_eq_ok.mp h
    exact .inr ⟨st, lf, rfl, hlf, hl.symm⟩

theorem partEntry_isOk_iff :
    (∃ l, partEntry ds p = .ok l) ↔
      (ds.part p = none → p = .val) ∧ ∀ st, ds.part p = some st → ∃ lf, (ds.savePart st).2 = .ok lf := by
  unfold partEntry
  rcases hp : ds.part p with _ | st
  · by_cases hv : p = .val <;> simp [hv]
  · simp only [Outcome.map_eq_ok, reduceCtorEq, IsEmpty.forall_iff, Option.some.injEq, true_and,
      forall_eq']
    exact ⟨fun ⟨_, lf, hlf, _⟩ => ⟨lf, hlf⟩, fun ⟨lf, hlf⟩ => ⟨_, lf, hlf, rfl⟩⟩

theorem saveNext_fst {acc : Dataset × Outcome (List (PartName × Layout × Saved))}
    {done : List (PartName × Layout × Saved)} (h : acc.2 = .ok done) (p : PartName) :
    (saveNext acc p).1 = acc.1.setPart p (acc.1.savedPart p) := by
  obtain ⟨ds, r⟩ := acc
  cases h
  simp only [saveNext, savedPart]
  rcases hp : ds.part p with _ | st
  · -- a missing part stays missing
    have hset : ds.setPart p none = ds := hp ▸ setPart_part ds p
    simp only [Option.map_none, hset]
    split <;> rfl
  · simp only [Option.map_some]
    rcases ds.savePart st with ⟨st', _ | lf⟩ <;> rfl

theorem ok_of_saveNext {acc : Dataset × Outcome (List (PartName × Layout × Saved))}
    {l : List (PartName × Layout × Saved)} (h : (saveNext acc p).2 = .ok l) :
    ∃ done, acc.2 = .ok done := by
  rw [saveNext_snd] at h
  obtain ⟨done, hd, -⟩ := Outcome.bind_eq_ok.mp h
  exact ⟨done, hd⟩

theorem partEntry_saveNext_of_ne (acc : Dataset × Outcome (List (PartName × Layout × Saved)))
    (h : q ≠ p) : partEntry (saveNext acc p).1 q = partEntry acc.1 q :=
  partEntry_congr (by rw [store_saveNext]) (part_saveNext_of_ne acc h)

theorem saveParts_snd (ds : Dataset) : ds.saveParts.2 = (do
    let a ← partEntry ds .train
    let b ← partEntry ds .test
    let c ← partEntry ds .val
    pure (a ++ b ++ c)) := by
  simp only [saveParts, List.foldl_cons, List.foldl_nil, saveNext_snd]
  simp [partEntry_saveNext_of_ne]

theorem saveParts_fst {parts : List (PartName × Layout × Saved)} (h : ds.saveParts.2 = .ok parts) :
    ds.saveParts.1 = ((ds.setPart .train (ds.savedPart .train)).setPart .test
      (ds.savedPart .test)).setPart .val (ds.savedPart .val) := by
  have hsteps : ds.saveParts = saveNext (saveNext (saveNext (ds, .ok []) .train) .test) .val := rfl
  rw [hsteps] at h ⊢
  obtain ⟨d2, h2⟩ := ok_of_saveNext h
  obtain ⟨d1, h1⟩ := ok_of_saveNext h2
  rw [saveNext_fst h2, saveNext_fst h1, saveNext_fst rfl]
  -- the later parts are saved as in the dataset they started from
  have htest : (ds.setPart .train (ds.savedPart .train)).savedPart .test = ds.savedPart .test :=
    savedPart_congr (by simp) (part_setPart_of_ne _ (by decide))
  have hval : ((ds.setPart .train (ds.savedPart .train)).setPart .test
      (ds.savedPart .test)).savedPart .val = ds.savedPart .val :=
    savedPart_congr (by simp) (by rw [part_setPart_of_ne _ (by decide), part_setPart_of_ne _ (by decide)])
  simp only [htest]
  rw [hval]

theorem mem_of_partEntry {l : List (PartName × Layout × Saved)} {x : PartName × Layout × Saved}
    (h : partEntry ds p = .ok l) (hx : x ∈ l) :
    x.1 = p ∧ ∃ st, ds.part x.1 = some st ∧ (ds.savePart st).2 = .ok x.2 := by
  rcases partEntry_eq_ok h with ⟨-, rfl⟩ | ⟨st, lf, hp, hlf, rfl⟩
  · exact absurd hx List.not_mem_nil
  · obtain rfl := List.mem_singleton.mp hx
    exact ⟨rfl, st, hp, hlf⟩

theorem mem_partEntry {l : List (PartName × Layout × Saved)} {st : Store}
    (h : partEntry ds p = .ok l) (hp : ds.part p = some st) :
    ∃ lf, (ds.savePart st).2 = .ok lf ∧ (p, lf) ∈ l := by
  rcases partEntry_eq_ok h with ⟨hnone, -⟩ | ⟨st', lf, hp', hlf, rfl⟩
  · rw [hp] at hnone
    cases hnone
  · rw [hp] at hp'
    cases hp'
    exact ⟨lf, hlf, List.mem_singleton_self _⟩

theorem map_fst_sublist_of_partEntry {l : List (PartName × Layout × Saved)}
    (h : partEntry ds p = .ok l) : List.Sublist (l.map (·.1)) [p] := by
  rcases partEntry_eq_ok h with ⟨-, rfl⟩ | ⟨st, lf, -, -, rfl⟩
  · exact List.nil_sublist _
  · exact List.Sublist.refl _

theorem saveParts_entries {parts : List (PartName × Layout × Saved)} (h : ds.saveParts.2 = .ok parts) :
    (parts.map (·.1)).Nodup ∧
      (∀ x ∈ parts, ∃ st, ds.part x.1 = some st ∧ (ds.savePart st).2 = .ok x.2) ∧
      ∀ p st, ds.part p = some st → ∃ lf, (ds.savePart st).2 = .ok lf ∧ (p, lf) ∈ parts := by
  rw [saveParts_snd] at h
  simp only [Outcome.bind_eq_ok, Outcome.pure_eq_ok, Except.ok.injEq] at h
  obtain ⟨a, ha, b, hb, c, hc, rfl⟩ := h
  refine ⟨?_, fun x hx => ?_, fun p st hp => ?_⟩
  · -- the names are among the three, in order
    have hsub : List.Sublist ((a ++ b ++ c).map (·.1)) [PartName.train, .test, .val] := by
      simp only [List.map_append]
      exact ((map_fst_sublist_of_partEntry ha).append (map_fst_sublist_of_partEntry hb)).append
        (map_fst_sublist_of_partEntry hc)
    exact hsub.nodup (by decide)
  · simp only [List.mem_append] at hx
    rcases hx with (hx | hx) | hx
    · exact (mem_of_partEntry ha hx).2
    · exact (mem_of_partEntry hb hx).2
    · exact (mem_of_partEntry hc hx).2
  · cases p with
    | train =>
      obtain ⟨lf, hlf, hmem⟩ := mem_partEntry ha hp
      exact ⟨lf, hlf, by simp [hmem]⟩
    | test =>
      obtain ⟨lf, hlf, hmem⟩ := mem_partEntry hb hp
      exact ⟨lf, hlf, by simp [hmem]⟩
    | val =>
      obtain ⟨lf, hlf, hmem⟩ := mem_partEntry hc hp
      exact ⟨lf, hlf, by simp [hmem]⟩

theorem saveParts_isOk_iff : (∃ parts, ds.saveParts.2 = .ok parts) ↔ ∀ p, ∃ l, partEntry ds p = .ok l := by
  rw [saveParts_snd]
  constructor
  · rintro ⟨parts, h⟩ p
    simp only [Outcome.bind_eq_ok] at h
    obtain ⟨a, ha, b, hb, c, hc, -⟩ := h
    cases p
    · exact ⟨a, ha⟩
    · exact ⟨b, hb⟩
    · exact ⟨c, hc⟩
  · intro h
    obtain ⟨a, ha⟩ := h .train
    obtain ⟨b, hb⟩ := h .test
    obtain ⟨c, hc⟩ := h .val
    exact ⟨a ++ b ++ c, by simp [ha, hb, hc]⟩

/-! ## Loading the parts -/

section Load

variable {table : AliasTable} {lazy : Bool}

theorem loadPart_eq_ok {acc e : Dataset} {x : PartName × Layout × Saved}
    (h : loadPart table lazy acc x = .ok e) :
    ∃ L', x.2.1.rebuilt table = .ok L' ∧ e = acc.setPart x.1 (some (Store.load L' lazy x.2.2)) := by
  obtain ⟨L', hL', he⟩ := Outcome.bind_eq_ok.mp h
  exact ⟨L', hL', (Except.ok.inj he).symm⟩

theorem foldlM_loadPart_eq_ok {parts : List (PartName × Layout × Saved)} {acc e : Dataset}
    (hnodup : (parts.map (·.1)).Nodup) (h : parts.foldlM (loadPart table lazy) acc = .ok e) :
    e.store = acc.store ∧ e.beenSplit = acc.beenSplit ∧ e.seed = acc.seed ∧
      (∀ p, (∀ x ∈ parts, x.1 ≠ p) → e.part p = acc.part p) ∧
      ∀ x ∈ parts, ∃ L', x.2.1.rebuilt table = .ok L' ∧ e.part x.1 = some (Store.load L' lazy x.2.2) := by
  induction parts generalizing acc with
  | nil =>
    cases h
    exact ⟨rfl, rfl, rfl, fun _ _ => rfl, fun _ hx => absurd hx List.not_mem_nil⟩
  | cons x rest ih =>
    rw [List.foldlM_cons] at h
    obtain ⟨acc', hstep, hrest⟩ := Outcome.bind_eq_ok.mp h
    obtain ⟨L', hL', rfl⟩ := loadPart_eq_ok hstep
    rw [List.map_cons, List.nodup_cons] at hnodup
    obtain ⟨hstore, hsplit, hseed, hkeep, hload⟩ := ih hnodup.2 hrest
    refine ⟨by simp [hstore], by simp [hsplit], by simp [hseed], fun p hp => ?_, fun y hy => ?_⟩
    · rw [hkeep p (fun y hy => hp y (List.mem_cons_of_mem _ hy)),
        part_setPart_of_ne _ (hp x List.mem_cons_self).symm]
    · rcases List.mem_cons.mp hy with rfl | hy
      · -- the first part saved is saved under no later name
        refine ⟨L', hL', ?_⟩
        rw [hkeep y.1 (fun z hz hzy => hnodup.1 (hzy ▸ List.mem_map_of_mem hz)), part_setPart_self]
      · exact hload y hy

theorem foldlM_loadPart_isOk_iff {parts : List (PartName × Layout × Saved)} {acc : Dataset} :
    (∃ e, parts.foldlM (loadPart table lazy) acc = .ok e) ↔
      ∀ x ∈ parts, ∃ L', x.2.1.rebuilt table = .ok L' := by
  induction parts generalizing acc with
  | nil => exact ⟨fun _ _ hx => absurd hx List.not_mem_nil, fun _ => ⟨acc, rfl⟩⟩
  | cons x rest ih =>
    simp only [List.foldlM_cons, List.forall_mem_cons]
    constructor
    · rintro ⟨e, h⟩
      obtain ⟨acc', hstep, hrest⟩ := Outcome.bind_eq_ok.mp h
      obtain ⟨L', hL', rfl⟩ := loadPart_eq_ok hstep
      exact ⟨⟨L', hL'⟩, ih.mp ⟨e, hrest⟩⟩
    · rintro ⟨⟨L', hL'⟩, hrest⟩
      have hstep : loadPart table lazy acc x = .ok (acc.setPart x.1 (some (Store.load L' lazy x.2.2))) := by
        simp [loadPart, hL']
      obtain ⟨e, he⟩ := (@ih (acc.setPart x.1 (some (Store.load L' lazy x.2.2)))).mpr hrest
      exact ⟨e, by rw [hstep, Outcome.ok_bind, he]⟩

end Load

/-! ## Reading keeps the observables -/

section Read

variable {table : AliasTable}

theorem readValues_parsed {ev : Events} {given : Option (List GivenCut)} {r : Option (Holding × Bool)}
    (hp : ds.store.layout.Parsed) (h : (ds.readValues table ev given).2 = .ok r) :
    (ds.readValues table ev given).1.store.layout.Parsed := by
  rcases hL : ds.store.layout with s | img
  · rw [(readValues_set hL h).1, hL]
    rwa [hL] at hp
  · rw [(readValues_image hL h).2.1]
    rw [hL] at hp
    exact (Layout.parsed_image_iff (Image.read_observables ev)).mpr hp

theorem readBatch_parsed {b : Batch} (hp : ds.store.layout.Parsed)
    (h : (ds.readBatch table b).2 = .ok ()) : (ds.readBatch table b).1.store.layout.Parsed := by
  obtain ⟨given, hrv, ⟨-, hds⟩ | ⟨v, l, -, hds⟩⟩ := readBatch_eq_ok h
  · rw [hds]
    exact readValues_parsed hp hrv
  · rw [hds] at h ⊢
    obtain ⟨_, _, _, -, -, -, hres⟩ := addValues_eq_ok h
    rw [hres]
    exact readValues_parsed hp hrv

theorem readAll_parsed {bs : List Batch} (hclean : ReadsCleanly table ds bs)
    (hp : ds.store.layout.Parsed) : (readAll table ds bs).store.layout.Parsed := by
  induction bs generalizing ds with
  | nil => exact hp
  | cons b bs ih =>
    obtain ⟨hok, hrest⟩ := hclean
    exact ih hrest (readBatch_parsed hp hok)

end Read

/-! ## Saving and loading the whole -/

section SaveLoad

variable {table : AliasTable} {lazy : Bool}

theorem saveParts_withStore (X : Store) (hX : X.layout = ds.store.layout) :
    ({ ds with store := X } : Dataset).saveParts.2 = ds.saveParts.2 := by
  have hentry : ∀ q, partEntry { ds with store := X } q = partEntry ds q :=
    fun _ => partEntry_congr hX rfl
  simp only [saveParts_snd, hentry]

theorem saveLoad_snd (h : ds.store.saved = none) : (ds.saveLoad table lazy).2 = (do
    let f ← (ds.store.save ds.beenSplit ds.seed).2
    let parts ← (if ds.beenSplit.truthy then ds.saveParts.2 else pure [])
    let L' ← ds.store.layout.rebuilt table
    parts.foldlM (loadPart table lazy)
      { store := Store.load L' lazy f, beenSplit := ds.beenSplit, seed := ds.seed }) := by
  obtain ⟨r, hsave⟩ := Store.save_of_saved h ds.beenSplit ds.seed
  have hlayout : (ds.store.save ds.beenSplit ds.seed).1.layout = ds.store.layout := by rw [hsave]
  rw [← saveParts_withStore (ds.store.save ds.beenSplit ds.seed).1 hlayout]
  unfold saveLoad
  rcases hsv : ds.store.save ds.beenSplit ds.seed with ⟨X', _ | f⟩
  · rfl
  · rw [hsv] at hlayout
    dsimp only at hlayout ⊢
    cases hsplit : ds.beenSplit.truthy
    · simp only [Bool.false_eq_true, if_false, Outcome.ok_bind, Outcome.pure_eq_ok, hlayout]
    · simp only [if_true]
      rcases hsp : ({ ds with store := X' } : Dataset).saveParts with ⟨ds2, _ | parts⟩
      · rfl
      · -- the dataset after its parts are saved keeps the saved store, the split and the seed
        have hds2 := saveParts_fst (congrArg Prod.snd hsp)
        rw [hsp] at hds2
        dsimp only at hds2
        subst hds2
        simp [hlayout]

theorem saveLoad_fst (h : ds.store.saved = none) {e : Dataset}
    (he : (ds.saveLoad table lazy).2 = .ok e) :
    (ds.saveLoad table lazy).1.store = (ds.store.save ds.beenSplit ds.seed).1 ∧
      (ds.saveLoad table lazy).1.beenSplit = ds.beenSplit ∧ (ds.saveLoad table lazy).1.seed = ds.seed ∧
      ∀ p, (ds.saveLoad table lazy).1.part p =
        if ds.beenSplit.truthy then ds.savedPart p else ds.part p := by
  obtain ⟨r, hsave⟩ := Store.save_of_saved h ds.beenSplit ds.seed
  have hlayout : (ds.store.save ds.beenSplit ds.seed).1.layout = ds.store.layout := by rw [hsave]
  unfold saveLoad at he ⊢
  rcases hsv : ds.store.save ds.beenSplit ds.seed with ⟨X', _ | f⟩
  · rw [hsv] at he
    cases he
  · rw [hsv] at he hlayout
    dsimp only at he hlayout ⊢
    cases hsplit : ds.beenSplit.truthy
    · exact ⟨rfl, rfl, rfl, fun p => by cases p <;> rfl⟩
    · simp only [hsplit, if_true] at he ⊢
      rcases hsp : ({ ds with store := X' } : Dataset).saveParts with ⟨ds2, _ | parts⟩
      · rw [hsp] at he
        cases he
      · have hds2 := saveParts_fst (congrArg Prod.snd hsp)
        rw [hsp] at hds2
        dsimp only at hds2
        subst hds2
        refine ⟨by simp, by simp, by simp, fun p => ?_⟩
        -- each part after its saving, as the dataset with its saved store keeps it
        have hpart : ∀ q, ({ ds with store := X' } : Dataset).savedPart q = ds.savedPart q :=
          fun q => savedPart_congr hlayout (by cases q <;> rfl)
        cases p <;> simp [hpart, part_setPart_of_ne]

end SaveLoad

/-! ## The round trip -/

/-- A dataset as reads and splits leave it: its store kept, every part kept as
the dataset sees it, and no part before a split. -/
structure Kept (ds : Dataset) : Prop where
  store : ds.store.Kept
  parts : ∀ p st, ds.part p = some st → (ds.view st).Kept
  unsplit : ds.beenSplit.truthy = false → ∀ p, ds.part p = none

/-- What saving needs: the store saves and, once split, the training and test
parts are there and every part there saves as the dataset sees it. -/
def Saves (ds : Dataset) : Prop :=
  ds.store.Saves ds.beenSplit ds.seed ∧
    (ds.beenSplit.truthy = true → ∀ p, (ds.part p = none → p = .val) ∧
      ∀ st, ds.part p = some st → (ds.view st).Saves (.bool false) .none)

/-- A dataset reloaded from another: the same split and seed, its store
reloaded from the other's, and each part there exactly when the other's is,
reloaded from it as the two datasets see them. -/
def Reloads (e d : Dataset) : Prop :=
  e.beenSplit = d.beenSplit ∧ e.seed = d.seed ∧ e.store.Reloads d.store ∧
    ∀ p, Option.Rel (fun st' st => (e.view st').Reloads (d.view st)) (e.part p) (d.part p)

variable {lazy : Bool}

theorem rebuilt_of_savePart {st : Store} {lf : Layout × Saved} (hkv : (ds.view st).Kept)
    (h : (ds.savePart st).2 = .ok lf) :
    ((ds.view st).save (.bool false) .none).2 = .ok lf.2 ∧
      ∃ L', lf.1.rebuilt AliasTable.shipped = .ok L' ∧ L'.Rebuilds (ds.view st).layout := by
  obtain ⟨hlay, hsave⟩ := savePart_eq_ok hkv.unsaved h
  rw [hlay]
  exact ⟨hsave, Store.rebuilt_of_save hkv hsave⟩

theorem savePart_isOk_of_saves {st : Store} (hkv : (ds.view st).Kept)
    (h : (ds.view st).Saves (.bool false) .none) : ∃ lf, (ds.savePart st).2 = .ok lf := by
  obtain ⟨f, hf⟩ := (Store.save_isOk_iff hkv.unsaved _ _).mpr h
  exact ⟨_, by rw [savePart_snd, hf]; rfl⟩

theorem saveLoad_isOk_iff (hk : ds.Kept) :
    (∃ e, (ds.saveLoad AliasTable.shipped lazy).2 = .ok e) ↔ ds.Saves := by
  rw [saveLoad_snd hk.store.unsaved]
  constructor
  · rintro ⟨e, he⟩
    obtain ⟨f, hf, he⟩ := Outcome.bind_eq_ok.mp he
    obtain ⟨parts, hparts, -⟩ := Outcome.bind_eq_ok.mp he
    refine ⟨(Store.save_isOk_iff hk.store.unsaved _ _).mp ⟨f, hf⟩, fun hsplit p => ?_⟩
    rw [hsplit, if_pos rfl] at hparts
    obtain ⟨hval, hsaves⟩ := partEntry_isOk_iff.mp (saveParts_isOk_iff.mp ⟨parts, hparts⟩ p)
    refine ⟨hval, fun st hst => ?_⟩
    obtain ⟨lf, hlf⟩ := hsaves st hst
    have hkv := hk.parts p st hst
    exact (Store.save_isOk_iff hkv.unsaved _ _).mp ⟨lf.2, (rebuilt_of_savePart hkv hlf).1⟩
  · rintro ⟨hsaves, hsplitSaves⟩
    obtain ⟨f, hf⟩ := (Store.save_isOk_iff hk.store.unsaved _ _).mpr hsaves
    obtain ⟨L', hL', -⟩ := Store.rebuilt_of_save hk.store hf
    -- the parts saved: none before a split, else one entry for each part there
    have hparts : ∃ parts, (if ds.beenSplit.truthy then ds.saveParts.2 else pure []) = .ok parts ∧
        ∀ x ∈ parts, ∃ st, ds.part x.1 = some st ∧ (ds.savePart st).2 = .ok x.2 := by
      cases hsplit : ds.beenSplit.truthy
      · exact ⟨[], rfl, fun _ hx => absurd hx List.not_mem_nil⟩
      · have hentries : ∀ p, ∃ l, partEntry ds p = .ok l := fun p =>
          partEntry_isOk_iff.mpr ⟨(hsplitSaves hsplit p).1, fun st hst =>
            savePart_isOk_of_saves (hk.parts p st hst) ((hsplitSaves hsplit p).2 st hst)⟩
        obtain ⟨parts, hp⟩ := saveParts_isOk_iff.mpr hentries
        exact ⟨parts, hp, (saveParts_entries hp).2.1⟩
    obtain ⟨parts, hpartsOk, hentry⟩ := hparts
    obtain ⟨e, he⟩ := foldlM_loadPart_isOk_iff.mpr fun x hx => by
      obtain ⟨st, hst, hlf⟩ := hentry x hx
      obtain ⟨-, L'', hL'', -⟩ := rebuilt_of_savePart (hk.parts x.1 st hst) hlf
      exact ⟨L'', hL''⟩
    exact ⟨e, by rw [hf, Outcome.ok_bind, hpartsOk, Outcome.ok_bind, hL', Outcome.ok_bind, he]⟩

theorem part_reloads (hk : ds.Kept) {parts : List (PartName × Layout × Saved)}
    (hparts : ds.saveParts.2 = .ok parts) {acc e d' : Dataset} (hacc : ∀ p, acc.part p = none)
    (he : parts.foldlM (loadPart AliasTable.shipped lazy) acc = .ok e)
    (hlayout : d'.store.layout = ds.store.layout) (hd' : ∀ p, d'.part p = ds.savedPart p)
    (p : PartName) :
    Option.Rel (fun st' st => (e.view st').Reloads (d'.view st)) (e.part p) (d'.part p) := by
  obtain ⟨hnodup, hentry, hmem⟩ := saveParts_entries hparts
  obtain ⟨-, -, -, hkeep, hload⟩ := foldlM_loadPart_eq_ok hnodup he
  rw [hd' p]
  rcases hp : ds.part p with _ | st
  · -- a part not there is saved under no name, so none is loaded
    have hnot : ∀ x ∈ parts, x.1 ≠ p := by
      intro x hx hxp
      obtain ⟨st, hst, -⟩ := hentry x hx
      rw [hxp, hp] at hst
      cases hst
    rw [hkeep p hnot, hacc p]
    simp only [savedPart, hp, Option.map_none]
    exact .none
  · have hkv := hk.parts p st hp
    obtain ⟨lf, hlf, hx⟩ := hmem p st hp
    obtain ⟨L'', hL'', hep⟩ := hload (p, lf) hx
    obtain ⟨hsave, L₀, hL₀, hreb⟩ := rebuilt_of_savePart hkv hlf
    -- the part is loaded into the layout built again from its own
    obtain rfl : L₀ = L'' := Except.ok.inj (hL₀.symm.trans hL'')
    have hview : d'.view (ds.savePart st).1 = ((ds.view st).save (.bool false) .none).1 := by
      rw [view_congr hlayout]
      exact view_savePart hkv.unsaved
    rw [hep]
    simp only [savedPart, hp, Option.map_some, Option.rel_some_some]
    rw [hview, show e.view (Store.load L₀ lazy lf.2) = Store.load L₀ lazy lf.2 by simp [view]]
    exact Store.save_load_reloads hkv hsave hreb lazy

theorem saveLoad_reloads (hk : ds.Kept) {e : Dataset}
    (he : (ds.saveLoad AliasTable.shipped lazy).2 = .ok e) :
    e.Reloads (ds.saveLoad AliasTable.shipped lazy).1 := by
  obtain ⟨hstore', hsplit', hseed', hpart'⟩ := saveLoad_fst hk.store.unsaved he
  rw [saveLoad_snd hk.store.unsaved] at he
  obtain ⟨f, hf, he⟩ := Outcome.bind_eq_ok.mp he
  obtain ⟨parts, hparts, he⟩ := Outcome.bind_eq_ok.mp he
  obtain ⟨L', hL', he⟩ := Outcome.bind_eq_ok.mp he
  obtain ⟨L₀, hL₀, hreb⟩ := Store.rebuilt_of_save hk.store hf
  obtain rfl : L₀ = L' := Except.ok.inj (hL₀.symm.trans hL')
  have hlayout : (ds.saveLoad AliasTable.shipped lazy).1.store.layout = ds.store.layout := by
    obtain ⟨r, hsave⟩ := Store.save_of_saved hk.store.unsaved ds.beenSplit ds.seed
    rw [hstore', hsave]
  have hnodup : (parts.map (·.1)).Nodup := by
    cases hsplit : ds.beenSplit.truthy
    · rw [hsplit] at hparts
      cases hparts
      exact List.nodup_nil
    · rw [hsplit, if_pos rfl] at hparts
      exact (saveParts_entries hparts).1
  obtain ⟨hstore, hsplitE, hseedE, -, -⟩ := foldlM_loadPart_eq_ok hnodup he
  refine ⟨hsplitE.trans hsplit'.symm, hseedE.trans hseed'.symm, ?_, fun p => ?_⟩
  · rw [hstore, hstore']
    exact Store.save_load_reloads hk.store hf hreb lazy
  -- the parts: compared one by one once split, and none on either side before
  cases hsplit : ds.beenSplit.truthy
  · rw [hsplit] at hparts
    cases hparts
    cases he
    simp only [hpart', hsplit, hk.unsplit hsplit, Bool.false_eq_true, if_false]
    cases p <;> exact .none
  · rw [hsplit, if_pos rfl] at hparts
    refine part_reloads hk hparts (fun p => by cases p <;> rfl) he hlayout (fun p => ?_) p
    rw [hpart', hsplit, if_pos rfl]

/-- Saving a dataset as reads and splits leave it and loading it again, at once
or lazily, succeeds exactly when the dataset saves; the loaded dataset then has
the class, configuration, targets and samples of the saved one, the samples
element by element, part for part. -/
theorem saveLoad_roundTrip (ds : Dataset) (lazy : Bool) (hk : ds.Kept) :
    ((∃ e, (ds.saveLoad AliasTable.shipped lazy).2 = .ok e) ↔ ds.Saves) ∧
      ∀ e, (ds.saveLoad AliasTable.shipped lazy).2 = .ok e →
        e.Reloads (ds.saveLoad AliasTable.shipped lazy).1 :=
  ⟨saveLoad_isOk_iff hk, fun _ he => saveLoad_reloads hk he⟩

/-! ## One read saved, and a pair that cannot be

An image of the pseudorapidity and azimuth of all jets that has read one event
is kept, so its round trip is described by `saveLoad_roundTrip`. An image of
the pseudorapidity of all jets against the azimuth of all electrons, read from
an event with two jets and one electron, holds heights and widths of different
shapes, and cannot be saved.
-/

theorem parse_jet_quantity {cn : String} {kind : ObservableKind} {ks : List ObjectClass}
    (hcn : '.' ∉ cn.toList) (hfind : AliasTable.shipped.find? cn = some kind)
    (hks : kind.supported = some ks) (hplain : kind.subjetParams = .none)
    (hadmits : Observable.Admits kind ks (.collective "Jet" none none)) :
    Observable.parse AliasTable.shipped ("Jet" ++ "." ++ cn) [] =
      .ok (some (Observable.created kind ks (.collective "Jet" none none) (.str cn) .none)) := by
  have hkind : Observable.classKind AliasTable.shipped cn = some kind := by
    simp [Observable.classKind, hfind]
  have hread : PhysicsObject.ofName "Jet" = .ok (.collective "Jet" none none) := by
    have h := PhysicsObject.ofName_name (o := .collective "Jet" none none) (by decide)
    rwa [show (PhysicsObject.collective "Jet" none none).name = "Jet" by
      simp [PhysicsObject.name, PhysicsObject.collectiveName]] at h
  have hcounts : Observable.nameCounts AliasTable.shipped kind cn 0 0 = .ok .none := by
    simp [Observable.nameCounts, hfind, givenCounts, hplain]
  have h := Observable.parse_shipped_of_admits (Observable.splitName_append hcn) hkind hks hread
    hadmits hcounts
  simpa only [Observable.kwargParams, hfind, hplain, countKwargs] using h

theorem jetImage_parsed : jetImage.Parsed := by
  have heta := @parse_jet_quantity "Eta" .eta _ (by decide) (by decide +kernel) rfl rfl
    (by simp [Observable.Admits, PhysicsObject.kind])
  have hphi := @parse_jet_quantity "Phi" .phi _ (by decide) (by decide +kernel) rfl rfl
    (by simp [Observable.Admits, PhysicsObject.kind])
  exact ⟨⟨Image.jetEta, _, _, rfl, heta⟩, ⟨Image.jetPhi, _, _, rfl, hphi⟩, fun h => absurd h (by decide)⟩

def oneJetDataset : Dataset := readAll AliasTable.shipped (new jetImage) [jetBatch 1]

theorem oneJetDataset_kept : oneJetDataset.Kept := by
  have hclean : ReadsCleanly AliasTable.shipped (new jetImage) [jetBatch 1] := by decide +kernel
  have hnone : ∀ p, oneJetDataset.part p = none := by
    intro p
    cases p <;> exact Option.isNone_iff_eq_none.mp (by decide +kernel)
  -- an image that is not pixelated holds its samples as pairs, never as a set's array
  have hpairs : oneJetDataset.store.layout.rowSamples = false := by decide +kernel
  refine ⟨⟨Option.isNone_iff_eq_none.mp (by decide +kernel),
      readAll_parsed hclean jetImage_parsed, fun s hs => ?_, by decide +kernel⟩,
    fun p st h => ?_, fun _ => hnone⟩
  · simp [hs, Layout.rowSamples] at hpairs
  · rw [hnone p] at h
    cases h

theorem saveLoad_roundTrip_after_one_read :
    oneJetDataset.Kept ∧
      ((∃ e, (oneJetDataset.saveLoad AliasTable.shipped true).2 = .ok e) ↔ oneJetDataset.Saves) ∧
      ∀ e, (oneJetDataset.saveLoad AliasTable.shipped true).2 = .ok e →
        e.Reloads (oneJetDataset.saveLoad AliasTable.shipped true).1 :=
  ⟨oneJetDataset_kept, saveLoad_roundTrip oneJetDataset true oneJetDataset_kept⟩

def electronPhi : Observable :=
  { kind := .phi, physicsObject := some (.collective "Electron" none none), className := .str "Phi",
    supported := some ["single", "collective", "nested"], counts := .none }

def twoJetsOneElectron : Events :=
  ⟨[("Jet.Eta", { dtype := .int32, shape := [1, 2], data := #[.int 0, .int 0] }),
    ("Electron.Phi", { dtype := .int32, shape := [1, 1], data := #[.int 0] })]⟩

def jetElectronImage : Layout :=
  .image { height := .observable Image.jetEta, width := .observable electronPhi }

/-- The read goes through, but two jets and one electron give heights and
widths of different shapes, which do not stack into one array to save. -/
theorem saveLoad_fails_on_ragged_pair :
    ReadsCleanly AliasTable.shipped (new jetElectronImage) [⟨twoJetsOneElectron, .int 1, none⟩] ∧
      ((readAll AliasTable.shipped (new jetElectronImage)
        [⟨twoJetsOneElectron, .int 1, none⟩]).saveLoad AliasTable.shipped false).2.isOk = false := by
  decide +kernel

end Dataset

end ColliderML
