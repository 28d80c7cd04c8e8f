import Mathlib
import ColliderML.Representation.Image.Read
import ColliderML.Proofs.Outcome

/-!
# The operation log of an image

An image keeps the operations asked of it in two lists: those registered while
nothing has been read, which every read replays, and those done on read events.
Its configuration shows the first list until the image is read and the second
after. All that these lists and the read mark can do is said once, by the small
machine `OperationLog.step`: an operation is registered before any read and
recorded after, and a read records the registered operations again.

When every action of a run succeeds and leaves the image good, the image follows
that machine step for step (`runActions_operationLog`). Every read therefore
lists the registered operations once more, so the configuration lists each
operation issued exactly once only when the image is read at most once, or when
nothing was asked of it before its first read (`registeredMethods_exact_iff`).
-/

namespace ColliderML

/-- What can happen to an image: an operation is asked for, or events are read. -/
inductive ImageAction where
  | operate (s : ImageStep)
  | read (ev : Events)

namespace ImageAction

def operation? : ImageAction → Option ImageStep
  | .operate s => some s
  | .read _ => none

def isRead : ImageAction → Bool
  | .operate _ => false
  | .read _ => true

def issued (acts : List ImageAction) : List ImageStep := acts.filterMap operation?

def reads (acts : List ImageAction) : Nat := acts.countP isRead

def beforeRead (acts : List ImageAction) : List ImageStep :=
  issued (acts.takeWhile (fun a => !a.isRead))

end ImageAction

/-- The two operation lists of an image and whether it was read: all that the
list of operations in its configuration depends on. -/
structure OperationLog where
  registered : List ImageStep
  recorded : List ImageStep
  beenRead : Bool

namespace OperationLog

def step (l : OperationLog) : ImageAction → OperationLog
  | .operate s =>
    if l.beenRead then { l with recorded := l.recorded ++ [s] }
    else { l with registered := l.registered ++ [s] }
  | .read _ => { l with recorded := l.recorded ++ l.registered, beenRead := true }

def shown (l : OperationLog) : List ImageStep := if l.beenRead then l.recorded else l.registered

end OperationLog

/-! ## The log machine alone -/

namespace ImageAction

@[simp] theorem issued_nil : issued [] = [] := rfl

@[simp] theorem issued_operate (s : ImageStep) (acts : List ImageAction) :
    issued (.operate s :: acts) = s :: issued acts := rfl

@[simp] theorem issued_read (ev : Events) (acts : List ImageAction) :
    issued (.read ev :: acts) = issued acts := rfl

@[simp] theorem reads_nil : reads [] = 0 := rfl

@[simp] theorem reads_operate (s : ImageStep) (acts : List ImageAction) :
    reads (.operate s :: acts) = reads acts := by
  simp [reads, isRead]

@[simp] theorem reads_read (ev : Events) (acts : List ImageAction) :
    reads (.read ev :: acts) = reads acts + 1 := by
  simp [reads, List.countP_cons, isRead]

@[simp] theorem beforeRead_operate (s : ImageStep) (acts : List ImageAction) :
    beforeRead (.operate s :: acts) = s :: beforeRead acts := by
  simp [beforeRead, isRead]

@[simp] theorem beforeRead_read (ev : Events) (acts : List ImageAction) :
    beforeRead (.read ev :: acts) = [] := by
  simp [beforeRead, isRead]

/-- What an action records once the image has been read: an operation itself,
a read the registered operations `R` again. -/
def replayed (R : List ImageStep) : ImageAction → List ImageStep
  | .operate s => [s]
  | .read _ => R

theorem flatMap_replayed_nil (acts : List ImageAction) : acts.flatMap (replayed []) = issued acts := by
  induction acts with
  | nil => rfl
  | cons a acts ih => cases a <;> simp [replayed, ih]

theorem flatMap_replayed_of_reads {R : List ImageStep} {acts : List ImageAction} (h : reads acts = 0) :
    acts.flatMap (replayed R) = issued acts := by
  induction acts with
  | nil => rfl
  | cons a acts ih =>
    cases a with
    | operate s =>
      simp only [reads_operate] at h
      simp [replayed, ih h]
    | read ev => simp at h

theorem length_flatMap_replayed (R : List ImageStep) (acts : List ImageAction) :
    (acts.flatMap (replayed R)).length = (issued acts).length + reads acts * R.length := by
  induction acts with
  | nil => simp
  | cons a acts ih =>
    cases a with
    | operate s =>
      simp only [List.flatMap_cons, List.length_append, ih, replayed, issued_operate, reads_operate,
        List.length_cons, List.length_nil]
      omega
    | read ev =>
      simp only [List.flatMap_cons, List.length_append, ih, replayed, issued_read, reads_read,
        Nat.add_mul, one_mul]
      omega

theorem flatMap_replayed_eq_issued_iff {R : List ImageStep} {acts : List ImageAction} :
    acts.flatMap (replayed R) = issued acts ↔ reads acts = 0 ∨ R = [] := by
  constructor
  · intro h
    have hlen := length_flatMap_replayed R acts
    rw [h] at hlen
    have hzero : reads acts * R.length = 0 := by omega
    rcases Nat.mul_eq_zero.mp hzero with hr | hr
    · exact .inl hr
    · exact .inr (List.eq_nil_of_length_eq_zero hr)
  · rintro (h | rfl)
    · exact flatMap_replayed_of_reads h
    · exact flatMap_replayed_nil acts

end ImageAction

namespace OperationLog

open ImageAction

theorem foldl_step_read {l : OperationLog} (acts : List ImageAction) (hl : l.beenRead = true) :
    acts.foldl step l = { l with recorded := l.recorded ++ acts.flatMap (replayed l.registered) } := by
  induction acts generalizing l with
  | nil => simp
  | cons a acts ih =>
    cases a with
    | operate s =>
      rw [List.foldl_cons, ih (by simp [step, hl])]
      simp [step, hl, replayed]
    | read ev =>
      rw [List.foldl_cons, ih (by simp [step])]
      simp [step, replayed, hl]

/-- From an unread log holding the registered operations `R` and nothing
recorded, the list shown at the end is `R` followed by the operations issued
exactly when there is at most one read, or nothing is registered by the first. -/
theorem shown_foldl_unread_iff (R : List ImageStep) (acts : List ImageAction) :
    (acts.foldl step ⟨R, [], false⟩).shown = R ++ issued acts ↔
      reads acts ≤ 1 ∨ R ++ beforeRead acts = [] := by
  induction acts generalizing R with
  | nil => simp [shown]
  | cons a acts ih =>
    cases a with
    | operate s =>
      -- an operation before any read only registers
      simpa [step] using ih (R ++ [s])
    | read ev =>
      -- from the first read on, every later read replays `R`
      rw [List.foldl_cons, foldl_step_read acts rfl]
      simp only [step, shown, if_true, List.nil_append, List.append_cancel_left_eq, issued_read,
        reads_read, beforeRead_read, List.append_nil, flatMap_replayed_eq_issued_iff]
      rw [show reads acts + 1 ≤ 1 ↔ reads acts = 0 by omega]

def fresh : OperationLog := ⟨[], [], false⟩

theorem shown_fresh_eq_issued_iff (acts : List ImageAction) :
    (acts.foldl step fresh).shown = issued acts ↔ reads acts ≤ 1 ∨ beforeRead acts = [] := by
  have h := shown_foldl_unread_iff [] acts
  simp only [List.nil_append] at h
  exact h

end OperationLog

theorem ImageStep.toDatum_injective : Function.Injective ImageStep.toDatum := by
  intro s t h
  cases s <;> cases t <;> simp_all [ImageStep.toDatum, ImageStep.name, ImageStep.arguments]

namespace Image

def operationLog (img : Image) : OperationLog := ⟨img.registered, img.recorded, img.beenRead⟩

theorem steps_eq_shown (img : Image) : img.steps = img.operationLog.shown := rfl

def perform (table : AliasTable) (img : Image) : ImageAction → Image × Option Error
  | .operate s => img.apply table s
  | .read ev => img.read table ev

def runActions (table : AliasTable) : Image → List ImageAction → Image
  | img, [] => img
  | img, a :: acts => runActions table (img.perform table a).1 acts

def RunsCleanly (table : AliasTable) : Image → List ImageAction → Prop
  | _, [] => True
  | img, a :: acts =>
    (img.perform table a).2 = none ∧ (img.perform table a).1.status = .bool true ∧
      RunsCleanly table (img.perform table a).1 acts

def good (img : Image) : Bool := img.status matches .bool true

theorem good_iff {img : Image} : img.good = true ↔ img.status = .bool true := by
  unfold good
  split
  · next h => simp [h]
  · next h => simpa using h

instance decidableRunsCleanly (table : AliasTable) :
    (img : Image) → (acts : List ImageAction) → Decidable (RunsCleanly table img acts)
  | _, [] => isTrue trivial
  | img, a :: acts =>
    have : Decidable ((img.perform table a).1.status = .bool true) := decidable_of_iff _ good_iff
    have := decidableRunsCleanly table (img.perform table a).1 acts
    inferInstanceAs (Decidable ((img.perform table a).2 = none ∧
      (img.perform table a).1.status = .bool true ∧ RunsCleanly table (img.perform table a).1 acts))

variable {table : AliasTable} {img i : Image}

/-! ## One operation -/

theorem register_operationLog (s : ImageStep) (h : img.beenRead = false) :
    (img.register s).operationLog = img.operationLog.step (.operate s) := by
  simp [register, operationLog, OperationLog.step, h]

theorem binEdges_fields (size range : Datum) :
    (img.binEdges size range).1.operationLog = img.operationLog ∧
      (img.binEdges size range).1.status = img.status := by
  unfold binEdges
  split <;> (try split) <;> simp [operationLog]

theorem pixelate_fields (size range : Datum) :
    (img.pixelate size range).1.beenRead = img.beenRead ∧
      (img.pixelate size range).1.status = img.status := by
  obtain ⟨hlog, hs⟩ := @binEdges_fields img size range
  have hread := congrArg OperationLog.beenRead hlog
  simp only [operationLog] at hread
  unfold pixelate
  split
  · next j e hb => simp only [hb] at hread hs; exact ⟨hread, hs⟩
  · next j hb =>
    simp only [hb] at hread hs
    split
    · exact ⟨hread, hs⟩
    · split
      · exact ⟨hread, hs⟩
      · dsimp only
        split
        · exact ⟨hread, hs⟩
        · split <;> exact ⟨hread, hs⟩

theorem pixelate_operationLog (size range : Datum) (hok : (img.pixelate size range).2 = none)
    (hgood : img.status = .bool true) :
    (img.pixelate size range).1.operationLog =
      img.operationLog.step (.operate (.pixelate size range)) := by
  obtain ⟨hlog, hs⟩ := @binEdges_fields img size range
  unfold pixelate at hok ⊢
  split
  · next j e hb => simp [hb] at hok
  · next j hb =>
    simp only [hb] at hlog hs hok
    have hreg : j.registered = img.registered := congrArg OperationLog.registered hlog
    have hrec : j.recorded = img.recorded := congrArg OperationLog.recorded hlog
    have hread : j.beenRead = img.beenRead := congrArg OperationLog.beenRead hlog
    split
    · next hr => rw [register_operationLog _ (by simpa using hr), hlog]
    · next hr =>
      have hr' : img.beenRead = true := by simpa [hread] using hr
      have hstop : j.stopped = false := by simp [stopped, hs, hgood]
      simp only [hr, hstop, if_false, Bool.false_eq_true] at hok ⊢
      split
      · next e he => simp [he] at hok
      · next h he =>
        simp only [he] at hok
        split
        · next e he' => simp [he'] at hok
        · simp [operationLog, OperationLog.step, hreg, hrec, hread, hr']

theorem findSubjets_eq_ok {c a r m : Datum} (h : findSubjets table img c a r m = .ok i) :
    ∃ sj, i = { img with subjets := sj, recorded := img.recorded ++ [.withSubjets c a r m] } := by
  unfold findSubjets at h
  simp only [Outcome.bind_eq_ok, Outcome.pure_eq_ok, Except.ok.injEq] at h
  obtain ⟨_, -, _, -, _, -, _, -, _, -, rfl⟩ := h
  exact ⟨_, rfl⟩

theorem rotate_eq_ok {a o : Datum} (h : rotate table img a o = .ok i) :
    i = { img with status := .bool false } ∨
      ∃ x y, i = { img with widthValue := x, heightValue := y,
                            recorded := img.recorded ++ [.rotate a o] } := by
  unfold rotate at h
  rw [Outcome.bind_eq_ok] at h
  obtain ⟨found, -, h⟩ := h
  rcases found with _ | ⟨oh, ow, s, index⟩
  · exact .inl (Except.ok.inj h).symm
  · simp only [Outcome.bind_eq_ok] at h
    obtain ⟨_, -, _, -, h⟩ := h
    -- the turn needs the origin a translation left; without one it fails
    split at h
    · simp only [Outcome.pure_eq_ok, Outcome.ok_bind, Outcome.bind_eq_ok, Except.ok.injEq] at h
      obtain ⟨_, -, _, -, _, -, _, -, _, -, _, -, _, -, _, -, _, -, rfl⟩ := h
      exact .inr ⟨_, _, rfl⟩
    · cases h

theorem translate_cases (o : Datum) :
    ((translate table img o).1 = { img with status := .bool false } ∧
        (translate table img o).2 = none) ∨
      (translate table img o).2 ≠ none ∧ (translate table img o).1.status = img.status ∨
      ∃ orig h w, (translate table img o) =
        ({ img with origin := orig, heightValue := h, widthValue := w,
                    recorded := img.recorded ++ [.translate o] }, none) := by
  unfold translate
  split
  · exact .inr (.inl ⟨nofun, rfl⟩)
  · exact .inl ⟨rfl, rfl⟩
  · split
    · exact .inr (.inl ⟨nofun, rfl⟩)
    · split
      · exact .inr (.inl ⟨nofun, rfl⟩)
      · exact .inr (.inr ⟨_, _, _, rfl⟩)

/-! ## Any operation -/

theorem apply_fields (s : ImageStep) :
    (img.apply table s).1.beenRead = img.beenRead ∧
      ((img.apply table s).1.status = img.status ∨ (img.apply table s).1.status = .bool false) := by
  cases s with
  | pixelate size range =>
    obtain ⟨hread, hs⟩ := @pixelate_fields img size range
    exact ⟨hread, .inl hs⟩
  | withSubjets c a r m =>
    simp only [apply]
    split
    · exact ⟨rfl, .inl rfl⟩
    · split
      · next j hj =>
        obtain ⟨sj, rfl⟩ := findSubjets_eq_ok hj
        exact ⟨rfl, .inl rfl⟩
      · exact ⟨rfl, .inl rfl⟩
  | translate o =>
    simp only [apply]
    split
    · exact ⟨rfl, .inl rfl⟩
    · rcases @translate_cases table img o with ⟨h, -⟩ | ⟨-, h⟩ | ⟨_, _, _, h⟩
      · rw [h]; exact ⟨rfl, .inr rfl⟩
      · refine ⟨?_, .inl h⟩
        unfold translate
        repeat' split
        all_goals rfl
      · rw [h]; exact ⟨rfl, .inl rfl⟩
  | rotate a o =>
    simp only [apply]
    split
    · exact ⟨rfl, .inl rfl⟩
    · split
      · next j hj =>
        rcases rotate_eq_ok hj with rfl | ⟨_, _, rfl⟩
        · exact ⟨rfl, .inr rfl⟩
        · exact ⟨rfl, .inl rfl⟩
      · exact ⟨rfl, .inl rfl⟩

theorem apply_operationLog (s : ImageStep) (hok : (img.apply table s).2 = none)
    (hgood : (img.apply table s).1.status = .bool true) :
    (img.apply table s).1.operationLog = img.operationLog.step (.operate s) := by
  have hstatus : img.status = .bool true := by
    rcases (@apply_fields table img s).2 with h | h
    · rw [← h, hgood]
    · rw [h] at hgood; cases hgood
  -- before any read, every operation but binning only registers itself
  have hunread : img.beenRead = false → (∀ size range, s ≠ .pixelate size range) →
      (img.apply table s).1.operationLog = img.operationLog.step (.operate s) := by
    intro hread hs
    cases s with
    | pixelate size range => exact absurd rfl (hs size range)
    | _ =>
      simp only [apply, hread, Bool.not_false, if_true]
      exact register_operationLog _ hread
  cases s with
  | pixelate size range => exact pixelate_operationLog size range hok hstatus
  | withSubjets c a r m =>
    cases hread : img.beenRead
    · exact hunread hread (fun _ _ => nofun)
    · simp only [apply, hread, Bool.not_true, Bool.false_eq_true, if_false] at hok ⊢
      rcases hres : findSubjets table img c a r m with e | j
      · simp [hres] at hok
      · obtain ⟨sj, rfl⟩ := findSubjets_eq_ok hres
        simp [operationLog, OperationLog.step, hread]
  | translate o =>
    cases hread : img.beenRead
    · exact hunread hread (fun _ _ => nofun)
    · simp only [apply, hread, Bool.not_true, Bool.false_eq_true, if_false] at hok hgood ⊢
      rcases @translate_cases table img o with ⟨h, -⟩ | ⟨h, -⟩ | ⟨_, _, _, h⟩
      · rw [h] at hgood; cases hgood
      · exact absurd hok h
      · rw [h]; simp [operationLog, OperationLog.step, hread]
  | rotate a o =>
    cases hread : img.beenRead
    · exact hunread hread (fun _ _ => nofun)
    · simp only [apply, hread, Bool.not_true, Bool.false_eq_true, if_false] at hok hgood ⊢
      rcases hres : rotate table img a o with e | j
      · simp [hres] at hok
      · simp only [hres] at hgood ⊢
        rcases rotate_eq_ok hres with rfl | ⟨_, _, rfl⟩
        · cases hgood
        · simp [operationLog, OperationLog.step, hread]

/-! ## Replays and reads -/

theorem replay_fields (ss : List ImageStep) :
    (replay table img ss).1.beenRead = img.beenRead ∧
      ((replay table img ss).1.status = .bool true → img.status = .bool true) := by
  induction ss generalizing img with
  | nil => exact ⟨rfl, id⟩
  | cons s rest ih =>
    obtain ⟨hread, hstatus⟩ := @apply_fields table img s
    have back : (img.apply table s).1.status = .bool true → img.status = .bool true := by
      intro h
      rcases hstatus with hs | hs
      · rw [← hs, h]
      · rw [hs] at h; cases h
    simp only [replay]
    split
    · next j e hj =>
      rw [hj] at hread back
      exact ⟨hread, back⟩
    · next j hj =>
      rw [hj] at hread back
      obtain ⟨hread', hstatus'⟩ := @ih j
      exact ⟨hread'.trans hread, back ∘ hstatus'⟩

theorem replay_operationLog (ss : List ImageStep) (hread : img.beenRead = true)
    (hok : (replay table img ss).2 = none) (hgood : (replay table img ss).1.status = .bool true) :
    (replay table img ss).1.operationLog = { img.operationLog with recorded := img.recorded ++ ss } := by
  induction ss generalizing img with
  | nil => simp [replay, operationLog]
  | cons s rest ih =>
    simp only [replay] at hok hgood ⊢
    rcases happ : img.apply table s with ⟨j, _ | e⟩
    · simp only [happ] at hok hgood ⊢
      have hj := (@apply_fields table img s).1
      rw [happ] at hj
      have hjgood : j.status = .bool true := (@replay_fields table j rest).2 hgood
      have hlog := @apply_operationLog table img s (by rw [happ]) (by rw [happ]; exact hjgood)
      rw [happ] at hlog
      rw [ih (hj.trans hread) hok hgood]
      simp only [operationLog, OperationLog.step, hread, if_true, OperationLog.mk.injEq] at hlog ⊢
      obtain ⟨hreg, hrec, hrd⟩ := hlog
      simp [hreg, hrec, hrd]
    · simp [happ] at hok

theorem read_cases (ev : Events) :
    (img.read table ev).2 ≠ none ∨
      ∃ j : Image, j.operationLog = { img.operationLog with beenRead := true } ∧
        j.beenPixelated = none ∧ img.read table ev = replay table j img.registered := by
  unfold read
  dsimp only
  split
  · exact .inl nofun
  · split
    · exact .inl nofun
    · split
      · exact .inl nofun
      · exact .inr ⟨_, rfl, rfl, rfl⟩

theorem read_operationLog (ev : Events) (hok : (img.read table ev).2 = none)
    (hgood : (img.read table ev).1.status = .bool true) :
    (img.read table ev).1.operationLog = img.operationLog.step (.read ev) := by
  rcases @read_cases table img ev with hne | ⟨j, hj, -, heq⟩
  · exact absurd hok hne
  · have hread : j.beenRead = true := congrArg OperationLog.beenRead hj
    have hrec : j.recorded = img.recorded := congrArg OperationLog.recorded hj
    rw [heq] at hok hgood ⊢
    rw [replay_operationLog _ hread hok hgood, hj, hrec]
    rfl

/-! ## What an image shows

No operation and no read changes the observables an image shows.
-/

def observables (img : Image) : ObservableArg × ObservableArg × ObservableArg :=
  (img.height, img.width, img.channel)

theorem binEdges_observables (size range : Datum) :
    (img.binEdges size range).1.observables = img.observables := by
  unfold binEdges
  split <;> (try split) <;> rfl

theorem pixelate_observables (size range : Datum) :
    (img.pixelate size range).1.observables = img.observables := by
  have h := @binEdges_observables img size range
  unfold pixelate
  split
  · next j e hb =>
    rw [hb] at h
    exact h
  · next j hb =>
    rw [hb] at h
    -- every branch builds on the image with its edges
    split
    · exact h
    · split
      · exact h
      · split
        · exact h
        · dsimp only
          split <;> exact h

theorem apply_observables (s : ImageStep) :
    (img.apply table s).1.observables = img.observables := by
  cases s with
  | pixelate size range => exact pixelate_observables size range
  | withSubjets c a r m =>
    simp only [apply]
    split
    · rfl
    · split
      · next j hj =>
        obtain ⟨sj, rfl⟩ := findSubjets_eq_ok hj
        rfl
      · rfl
  | translate o =>
    simp only [apply]
    split
    · rfl
    · unfold translate
      repeat' split
      all_goals rfl
  | rotate a o =>
    simp only [apply]
    split
    · rfl
    · split
      · next j hj =>
        rcases rotate_eq_ok hj with rfl | ⟨_, _, rfl⟩ <;> rfl
      · rfl

theorem replay_observables (ss : List ImageStep) :
    (replay table img ss).1.observables = img.observables := by
  induction ss generalizing img with
  | nil => rfl
  | cons s rest ih =>
    have happ := @apply_observables table img s
    simp only [replay]
    split
    · next j e hj =>
      rw [hj] at happ
      exact happ
    · next j hj =>
      rw [hj] at happ
      exact ih.trans happ

theorem read_observables (ev : Events) :
    (img.read table ev).1.observables = img.observables := by
  unfold read
  dsimp only
  split
  · rfl
  · split
    · rfl
    · split
      · rfl
      · exact replay_observables _

/-! ## Runs -/

theorem perform_operationLog (a : ImageAction) (hok : (img.perform table a).2 = none)
    (hgood : (img.perform table a).1.status = .bool true) :
    (img.perform table a).1.operationLog = img.operationLog.step a := by
  cases a with
  | operate s => exact apply_operationLog s hok hgood
  | read ev => exact read_operationLog ev hok hgood

theorem runActions_operationLog (acts : List ImageAction) (h : RunsCleanly table img acts) :
    (runActions table img acts).operationLog = acts.foldl OperationLog.step img.operationLog := by
  induction acts generalizing img with
  | nil => rfl
  | cons a acts ih =>
    obtain ⟨hok, hgood, hrest⟩ := h
    rw [runActions, List.foldl_cons, ih hrest, perform_operationLog a hok hgood]

/-! ## The configuration -/

theorem config_registeredMethods {d : Datum} (h : img.config = .ok d) :
    d.field? "registered_methods" = some (.list (img.steps.map ImageStep.toDatum)) := by
  unfold config at h
  -- the configurations of the axes, the weight and the bins play no part
  obtain ⟨_, -, h⟩ := Outcome.bind_eq_ok.mp h
  obtain ⟨_, -, h⟩ := Outcome.bind_eq_ok.mp h
  simp only at h
  repeat' (first | split at h | obtain ⟨_, -, h⟩ := Outcome.bind_eq_ok.mp h)
  all_goals
    cases h
    simp [Datum.field?, List.lookup]

/-- A run on a fresh image that goes through cleanly ends with a configuration
listing each operation issued exactly once, in order, if and only if the image
was read at most once or nothing was asked of it before its first read. -/
theorem registeredMethods_exact_iff (h w c : ObservableArg) (acts : List ImageAction) {d : Datum}
    (hclean : RunsCleanly table { height := h, width := w, channel := c } acts)
    (hconfig : (runActions table { height := h, width := w, channel := c } acts).config = .ok d) :
    d.field? "registered_methods" = some (.list ((ImageAction.issued acts).map ImageStep.toDatum)) ↔
      ImageAction.reads acts ≤ 1 ∨ ImageAction.beforeRead acts = [] := by
  have hlog := runActions_operationLog acts hclean
  rw [config_registeredMethods hconfig, steps_eq_shown, hlog, Option.some_inj, Datum.list.injEq,
    (List.map_injective_iff.mpr ImageStep.toDatum_injective).eq_iff]
  exact OperationLog.shown_fresh_eq_issued_iff acts

/-! ## Reading one event once and twice

An image of the pseudorapidity and azimuth of all jets asks for subjets before
it reads an event with one jet. After one read its configuration lists the
search once; after a second read it lists it twice.
-/

def jetEta : Observable :=
  { kind := .eta, physicsObject := some (.collective "Jet" none none), className := .str "Eta",
    supported := some ["single", "collective", "nested"], counts := .none }

def jetPhi : Observable :=
  { kind := .phi, physicsObject := some (.collective "Jet" none none), className := .str "Phi",
    supported := some ["single", "collective", "nested"], counts := .none }

def oneJetEvent : Events :=
  let zero : Tensor := { dtype := .int32, shape := [1, 1], data := #[.int 0] }
  ⟨[("Jet.Eta", zero), ("Jet.Phi", zero), ("Jet.Px", zero), ("Jet.Py", zero), ("Jet.Pz", zero),
    ("Jet.E", zero)]⟩

def jetSubjets : ImageStep := .withSubjets (.str "Jet") (.str "kt") (.int 1) (.int 0)

theorem registeredMethods_once_after_one_read :
    RunsCleanly AliasTable.shipped { height := .observable jetEta, width := .observable jetPhi }
        [.operate jetSubjets, .read oneJetEvent] ∧
      ∃ d, (runActions AliasTable.shipped { height := .observable jetEta, width := .observable jetPhi }
          [.operate jetSubjets, .read oneJetEvent]).config = .ok d ∧
        d.field? "registered_methods" = some (.list [jetSubjets.toDatum]) := by
  have hclean : RunsCleanly AliasTable.shipped
      { height := .observable jetEta, width := .observable jetPhi }
      [.operate jetSubjets, .read oneJetEvent] := by decide +kernel
  obtain ⟨d, hd⟩ := Outcome.exists_eq_ok_of_isOk (x := (runActions AliasTable.shipped
      { height := .observable jetEta, width := .observable jetPhi }
      [.operate jetSubjets, .read oneJetEvent]).config) (by decide +kernel)
  exact ⟨hclean, d, hd,
    (registeredMethods_exact_iff _ _ (.value .none) _ hclean hd).mpr (.inl (by decide))⟩

theorem registeredMethods_twice_after_two_reads :
    RunsCleanly AliasTable.shipped { height := .observable jetEta, width := .observable jetPhi }
        [.operate jetSubjets, .read oneJetEvent, .read oneJetEvent] ∧
      ∃ d, (runActions AliasTable.shipped { height := .observable jetEta, width := .observable jetPhi }
          [.operate jetSubjets, .read oneJetEvent, .read oneJetEvent]).config = .ok d ∧
        d.field? "registered_methods" = some (.list [jetSubjets.toDatum, jetSubjets.toDatum]) := by
  have hclean : RunsCleanly AliasTable.shipped
      { height := .observable jetEta, width := .observable jetPhi }
      [.operate jetSubjets, .read oneJetEvent, .read oneJetEvent] := by decide +kernel
  obtain ⟨d, hd⟩ := Outcome.exists_eq_ok_of_isOk (x := (runActions AliasTable.shipped
      { height := .observable jetEta, width := .observable jetPhi }
      [.operate jetSubjets, .read oneJetEvent, .read oneJetEvent]).config) (by decide +kernel)
  refine ⟨hclean, d, hd, ?_⟩
  -- the second read replays the search registered before the first
  rw [config_registeredMethods hd, steps_eq_shown, runActions_operationLog _ hclean]
  rfl

end Image

end ColliderML
