import Mathlib
import ColliderML.Proofs.Image.Binning

/-!
# What a stopped image still does

Moving the origin or turning the axes to a subjet that the events lack marks
an image as no longer good. Nothing else looks at that mark but binning: a
move or a turn checks its own subjet again, and binning computes and keeps its
edges before it looks at the mark, then leaves the points where they are.

So, once a read image is stopped and until it is read again, a move or turn
whose subjet is missing leaves it exactly as it is and raises nothing, and a
binning changes only the mark and the edges of the binning
(`Image.stopped_image_idle_until_read`). A move or turn to a subjet that every
event has runs as on a good image.
-/

namespace ColliderML

namespace Image

def forgetBins (img : Image) : Image := { img with beenPixelated := none, hBins := .unset, wBins := .unset }

def LacksSubjet (table : AliasTable) (img : Image) (subjet : Datum) : Prop :=
  locate table img subjet = .ok none

/-- An operation that leaves a stopped image idle: a move or a turn to a
subjet the events lack, or a binning. -/
def IdleOn (table : AliasTable) (img : Image) : ImageStep → Prop
  | .translate o => img.LacksSubjet table o
  | .rotate a _ => img.LacksSubjet table a
  | .pixelate _ _ => True
  | .withSubjets .. => False

def ImageStep.isPixelate : ImageStep → Bool
  | .pixelate .. => true
  | _ => false

instance decidableLacksSubjet (table : AliasTable) (img : Image) (subjet : Datum) :
    Decidable (img.LacksSubjet table subjet) :=
  match h : locate table img subjet with
  | .ok none => isTrue h
  | .ok (some _) => isFalse fun h' => nomatch h.symm.trans h'
  | .error _ => isFalse fun h' => nomatch h.symm.trans h'

instance decidableIdleOn (table : AliasTable) (img : Image) : DecidablePred (IdleOn table img)
  | .translate o => inferInstanceAs (Decidable (img.LacksSubjet table o))
  | .rotate a _ => inferInstanceAs (Decidable (img.LacksSubjet table a))
  | .pixelate _ _ => isTrue trivial
  | .withSubjets .. => isFalse id

variable {table : AliasTable} {img j : Image}

theorem stopped_iff : img.stopped = true ↔ img.status = .bool false := by
  unfold stopped
  split <;> simp_all

theorem fields_of_forgetBins (h : j.forgetBins = img.forgetBins) :
    j.height = img.height ∧ j.width = img.width ∧ j.subjets = img.subjets ∧ j.beenRead = img.beenRead ∧
      j.status = img.status :=
  ⟨(congrArg Image.height h :), (congrArg Image.width h :), (congrArg Image.subjets h :),
    (congrArg Image.beenRead h :), (congrArg Image.status h :)⟩

theorem locate_congr (h : j.forgetBins = img.forgetBins) (subjet : Datum) :
    locate table j subjet = locate table img subjet := by
  obtain ⟨hh, hw, hs, -⟩ := fields_of_forgetBins h
  simp only [locate, subjetsOf, hh, hw, hs]

theorem idleOn_congr (h : j.forgetBins = img.forgetBins) {s : ImageStep} (hs : IdleOn table img s) :
    IdleOn table j s := by
  cases s with
  | translate o => exact (locate_congr h o).trans hs
  | rotate a o => exact (locate_congr h a).trans hs
  | pixelate size range => trivial
  | withSubjets c a r m => exact hs

theorem stop_of_stopped (hstop : img.status = .bool false) : { img with status := .bool false } = img := by
  rw [← hstop]

theorem apply_translate_of_lacks (hread : img.beenRead = true) (hstop : img.status = .bool false)
    {o : Datum} (hlack : img.LacksSubjet table o) : img.apply table (.translate o) = (img, none) := by
  have happ : img.apply table (.translate o) = translate table img o := by
    unfold apply
    rw [hread]
    rfl
  rw [happ, translate, hlack]
  exact congrArg (·, none) (stop_of_stopped hstop)

theorem apply_rotate_of_lacks (hread : img.beenRead = true) (hstop : img.status = .bool false)
    {a o : Datum} (hlack : img.LacksSubjet table a) : img.apply table (.rotate a o) = (img, none) := by
  have hrot : rotate table img a o = .ok { img with status := .bool false } := by
    unfold rotate
    rw [show locate table img a = .ok none from hlack]
    rfl
  unfold apply
  rw [hread]
  simp only [Bool.not_true, Bool.false_eq_true, if_false, hrot]
  exact congrArg (·, none) (stop_of_stopped hstop)

theorem apply_pixelate_of_stopped (hread : img.beenRead = true) (hstop : img.status = .bool false)
    (size range : Datum) : img.apply table (.pixelate size range) = img.binEdges size range := by
  have hfields := @binEdges_fields img size range
  have hread' : (img.binEdges size range).1.beenRead = true := by
    rw [← hread]; exact congrArg OperationLog.beenRead hfields.1
  have hstop' : (img.binEdges size range).1.stopped = true := by
    simp [stopped, hfields.2, hstop]
  simp only [apply, pixelate]
  rcases hb : img.binEdges size range with ⟨j, _ | e⟩
  · rw [hb] at hread' hstop'
    simp only at hread' hstop'
    simp [hread', hstop']
  · rfl

theorem forgetBins_binEdges (size range : Datum) : (img.binEdges size range).1.forgetBins = img.forgetBins := by
  unfold binEdges
  split <;> (try split) <;> rfl

theorem binEdges_isNone_iff (size range : Datum) :
    (img.binEdges size range).2.isNone ↔
      (Bins.ofRange range size 0).isOk ∧ (Bins.ofRange range size 1).isOk := by
  unfold binEdges
  split
  · next e he => simp [he, Except.isOk, Except.toBool]
  · next hb he =>
    split
    · next e he' => simp [he, he', Except.isOk, Except.toBool]
    · next wb he' => simp [he, he', Except.isOk, Except.toBool]

theorem apply_of_idle (hread : img.beenRead = true) (hstop : img.status = .bool false) {s : ImageStep}
    (hs : IdleOn table img s) : (img.apply table s).1.forgetBins = img.forgetBins ∧
      (s.isPixelate = false → img.apply table s = (img, none)) := by
  cases s with
  | translate o =>
    have h := apply_translate_of_lacks hread hstop hs
    exact ⟨by rw [h], fun _ => h⟩
  | rotate a o =>
    have h := apply_rotate_of_lacks (o := o) hread hstop hs
    exact ⟨by rw [h], fun _ => h⟩
  | pixelate size range =>
    refine ⟨?_, nofun⟩
    rw [apply_pixelate_of_stopped hread hstop]
    exact forgetBins_binEdges size range
  | withSubjets c a r m => exact hs.elim

theorem runActions_of_idle (hread : img.beenRead = true) (hstop : img.status = .bool false)
    {ops : List ImageStep} (hops : ∀ s ∈ ops, IdleOn table img s) :
    (runActions table img (ops.map .operate)).forgetBins = img.forgetBins ∧
      ((∀ s ∈ ops, s.isPixelate = false) → runActions table img (ops.map .operate) = img) := by
  induction ops generalizing img with
  | nil => exact ⟨rfl, fun _ => rfl⟩
  | cons s ops ih =>
    obtain ⟨hkeep, hsame⟩ := apply_of_idle hread hstop (hops s (by simp))
    -- the image after the step is read and stopped still, and the rest stays idle on it
    obtain ⟨-, -, -, hread', hstop'⟩ := fields_of_forgetBins hkeep
    obtain ⟨hrest, hsame'⟩ := ih (hread'.trans hread) (hstop'.trans hstop)
      (fun t ht => idleOn_congr hkeep (hops t (by simp [ht])))
    simp only [List.map_cons, runActions, perform]
    refine ⟨hrest.trans hkeep, fun hnone => ?_⟩
    rw [hsame (hnone s (by simp))]
    rw [hsame (hnone s (by simp))] at hsame'
    exact hsame' (fun t ht => hnone t (by simp [ht]))

/-- What a run of idle operations leaves of a read image that is stopped, and
what the next operation does: the run keeps all but the binning, and leaves the
image as it is when it bins nothing; the next move or turn to a missing subjet
raises nothing and leaves the image as the run left it; the next binning keeps
all but the binning, marks the image as binned, and raises nothing exactly when
both axes' edges can be computed. -/
def StaysIdle (table : AliasTable) (img : Image) (ops : List ImageStep) : Prop :=
  let J := runActions table img (ops.map .operate)
  J.forgetBins = img.forgetBins ∧
    ((∀ s ∈ ops, s.isPixelate = false) → J = img) ∧
    (∀ o, img.LacksSubjet table o → J.apply table (.translate o) = (J, none)) ∧
    (∀ a o, img.LacksSubjet table a → J.apply table (.rotate a o) = (J, none)) ∧
    (∀ size range, (J.apply table (.pixelate size range)).1.forgetBins = img.forgetBins ∧
      (J.apply table (.pixelate size range)).1.beenPixelated = some true ∧
      ((J.apply table (.pixelate size range)).2.isNone ↔
        (Bins.ofRange range size 0).isOk ∧ (Bins.ofRange range size 1).isOk))

/-- Once a read image is stopped, and until it is read again, every move or
turn to a subjet the events lack returns without raising and leaves it as it
is, and every binning returns without raising exactly when its edges can be
computed and changes only the binning: the mark and the edges. -/
theorem stopped_image_idle_until_read (table : AliasTable) (img : Image) (hread : img.beenRead = true)
    (hstop : img.status = .bool false) (ops : List ImageStep) (hops : ∀ s ∈ ops, IdleOn table img s) :
    StaysIdle table img ops := by
  obtain ⟨hkeep, hsame⟩ := runActions_of_idle hread hstop hops
  set J := runActions table img (ops.map .operate)
  obtain ⟨-, -, -, hreadJ, hstopJ⟩ := fields_of_forgetBins hkeep
  rw [hread] at hreadJ
  rw [hstop] at hstopJ
  refine ⟨hkeep, hsame, fun o hlack => ?_, fun a o hlack => ?_, fun size range => ?_⟩
  · exact apply_translate_of_lacks hreadJ hstopJ ((locate_congr hkeep o).trans hlack)
  · exact apply_rotate_of_lacks hreadJ hstopJ ((locate_congr hkeep a).trans hlack)
  · rw [apply_pixelate_of_stopped hreadJ hstopJ]
    exact ⟨(forgetBins_binEdges size range).trans hkeep, (binEdges_binning size range).1,
      binEdges_isNone_iff size range⟩

/-! ## A stopped jet image

Values given for one constituent of one event, with one subjet. A move to the
second subjet stops the image; the first subjet is still there. -/

/-- One event with one constituent at height 0.5 and width 0.25, and one
subjet at height 1 and width 2. -/
def pointJet : Image :=
  { height := .observable jetEta, width := .observable jetPhi, beenRead := true,
    heightValue := some { dtype := .float64, shape := [1, 1], data := #[.real 0.5] },
    widthValue := some { dtype := .float64, shape := [1, 1], data := #[.real 0.25] },
    subjets := some ⟨[("eta", { dtype := .float32, shape := [1, 1], data := #[.real 1] }),
      ("phi", { dtype := .float32, shape := [1, 1], data := #[.real 2] })]⟩ }

def stoppedJet : Image := (pointJet.apply .shipped (.translate (.str "SubJet1"))).1

def unitSize : Datum := .list [.int 2, .int 2]

def unitRange : Datum := .list [.list [.int 0, .int 1], .list [.int 0, .int 1]]

theorem stopped_image_idle_until_read_stoppedJet :
    stoppedJet.beenRead = true ∧ stoppedJet.status = .bool false ∧
      (∀ s ∈ [.translate (.str "SubJet2"), .rotate (.str "SubJet1") (.int 90), .pixelate unitSize unitRange],
        IdleOn .shipped stoppedJet s) ∧
      StaysIdle .shipped stoppedJet
        [.translate (.str "SubJet2"), .rotate (.str "SubJet1") (.int 90), .pixelate unitSize unitRange] := by
  have hread : stoppedJet.beenRead = true := by decide +kernel
  have hstop : stoppedJet.status = .bool false := stopped_iff.mp (by decide +kernel)
  have hops : ∀ s ∈ [.translate (.str "SubJet2"), .rotate (.str "SubJet1") (.int 90),
      .pixelate unitSize unitRange], IdleOn .shipped stoppedJet s := by decide +kernel
  exact ⟨hread, hstop, hops, stopped_image_idle_until_read _ _ hread hstop _ hops⟩

/-- A stopped image is not frozen: a move to a subjet every event has still
moves the points and is listed among the operations, and a binning still marks
the image as binned. -/
theorem stopped_image_moves_and_bins :
    stoppedJet.beenRead = true ∧ stoppedJet.stopped = true ∧
      (stoppedJet.apply .shipped (.translate (.str "SubJet0"))).2.isNone = true ∧
      stoppedJet.steps.length = 0 ∧
      (stoppedJet.apply .shipped (.translate (.str "SubJet0"))).1.steps.length = 1 ∧
      stoppedJet.beenPixelated = none ∧
      (stoppedJet.apply .shipped (.pixelate unitSize unitRange)).1.beenPixelated = some true := by
  decide +kernel

end Image

end ColliderML
