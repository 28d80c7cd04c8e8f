import Mathlib
import ColliderML.Proofs.Image.OperationLog

/-!
# Whether a read image is binned

Reading events forgets that an image was binned and then replays the
registered operations, of which only a binning marks the image as binned
again. So a read that succeeds leaves the image binned exactly when a binning
is registered (`read_binning`), keeps the registered operations, and marks the
image as read: an image that was binned as its registered operations say stays
so over every read.
-/

namespace ColliderML

namespace ImageStep

def isPixelate : ImageStep → Bool
  | .pixelate .. => true
  | _ => false

end ImageStep

namespace Image

variable {table : AliasTable} {img : Image}

def BinnedAsRegistered (img : Image) : Prop :=
  img.pixelated = img.registered.any ImageStep.isPixelate

theorem binEdges_binning (size range : Datum) :
    (img.binEdges size range).1.beenPixelated = some true ∧
      (img.binEdges size range).1.registered = img.registered := by
  unfold binEdges
  split <;> (try split) <;> simp

theorem pixelate_binning (size range : Datum) :
    (img.pixelate size range).1.beenPixelated = some true ∧
      (img.beenRead = true → (img.pixelate size range).1.registered = img.registered) := by
  obtain ⟨hpix, hreg⟩ := @binEdges_binning img size range
  have hread := congrArg OperationLog.beenRead (@binEdges_fields img size range).1
  simp only [operationLog] at hread
  unfold pixelate
  split
  · next j e hb =>
    simp only [hb] at hpix hreg
    exact ⟨hpix, fun _ => hreg⟩
  · next j hb =>
    simp only [hb] at hpix hreg hread
    split
    · next hr =>
      refine ⟨hpix, fun h => ?_⟩
      simp [hread, h] at hr
    · split
      · exact ⟨hpix, fun _ => hreg⟩
      · dsimp only
        split
        · exact ⟨hpix, fun _ => hreg⟩
        · split <;> exact ⟨hpix, fun _ => hreg⟩

theorem translate_binning (o : Datum) :
    (translate table img o).1.beenPixelated = img.beenPixelated ∧
      (translate table img o).1.registered = img.registered := by
  unfold translate
  repeat' split
  all_goals exact ⟨rfl, rfl⟩

theorem apply_binning (s : ImageStep) :
    (img.apply table s).1.beenPixelated =
        (if s.isPixelate then some true else img.beenPixelated) ∧
      (img.beenRead = true → (img.apply table s).1.registered = img.registered) := by
  cases s with
  | pixelate size range => simpa [apply, ImageStep.isPixelate] using @pixelate_binning img size range
  | withSubjets c a r m =>
    simp only [apply, ImageStep.isPixelate, Bool.false_eq_true, if_false]
    split
    · next hr => exact ⟨rfl, fun h => by simp [h] at hr⟩
    · split
      · next j hj =>
        obtain ⟨_, rfl⟩ := findSubjets_eq_ok hj
        exact ⟨rfl, fun _ => rfl⟩
      · exact ⟨rfl, fun _ => rfl⟩
  | translate o =>
    simp only [apply, ImageStep.isPixelate, Bool.false_eq_true, if_false]
    split
    · next hr => exact ⟨rfl, fun h => by simp [h] at hr⟩
    · obtain ⟨hpix, hreg⟩ := @translate_binning table img o
      exact ⟨hpix, fun _ => hreg⟩
  | rotate a o =>
    simp only [apply, ImageStep.isPixelate, Bool.false_eq_true, if_false]
    split
    · next hr => exact ⟨rfl, fun h => by simp [h] at hr⟩
    · split
      · next j hj =>
        rcases rotate_eq_ok hj with rfl | ⟨_, _, rfl⟩ <;> exact ⟨rfl, fun _ => rfl⟩
      · exact ⟨rfl, fun _ => rfl⟩

theorem replay_binning (ss : List ImageStep) (hread : img.beenRead = true)
    (hok : (replay table img ss).2 = none) :
    (replay table img ss).1.beenPixelated =
        (if ss.any ImageStep.isPixelate then some true else img.beenPixelated) ∧
      (replay table img ss).1.registered = img.registered := by
  induction ss generalizing img with
  | nil => simp [replay]
  | cons s rest ih =>
    simp only [replay] at hok ⊢
    rcases happ : img.apply table s with ⟨j, _ | e⟩
    · simp only [happ] at hok ⊢
      obtain ⟨hpix, hreg⟩ := @apply_binning table img s
      have hjread := (@apply_fields table img s).1
      rw [happ] at hpix hreg hjread
      obtain ⟨hpix', hreg'⟩ := ih (hjread.trans hread) hok
      refine ⟨?_, hreg'.trans (hreg hread)⟩
      rw [hpix', hpix, List.any_cons]
      cases s.isPixelate <;> cases rest.any ImageStep.isPixelate <;> rfl
    · simp [happ] at hok

theorem read_binning (ev : Events) (hok : (img.read table ev).2 = none) :
    (img.read table ev).1.beenPixelated =
        (if img.registered.any ImageStep.isPixelate then some true else none) ∧
      (img.read table ev).1.registered = img.registered ∧ (img.read table ev).1.beenRead = true := by
  rcases @read_cases table img ev with hne | ⟨j, hj, hnone, hreplay⟩
  · exact absurd hok hne
  · have hread : j.beenRead = true := congrArg OperationLog.beenRead hj
    have hreg : j.registered = img.registered := congrArg OperationLog.registered hj
    rw [hreplay] at hok ⊢
    obtain ⟨hpix, hreg'⟩ := replay_binning img.registered hread hok
    refine ⟨by rw [hpix, hnone], hreg'.trans hreg, ?_⟩
    rw [(@replay_fields table j img.registered).1, hread]

theorem read_binnedAsRegistered (ev : Events) (hok : (img.read table ev).2 = none) :
    (img.read table ev).1.BinnedAsRegistered ∧
      (img.read table ev).1.pixelated = img.registered.any ImageStep.isPixelate := by
  obtain ⟨hpix, hreg, -⟩ := read_binning ev hok
  have hbinned : (img.read table ev).1.pixelated = img.registered.any ImageStep.isPixelate := by
    unfold pixelated
    rw [hpix]
    cases img.registered.any ImageStep.isPixelate <;> rfl
  exact ⟨by rw [BinnedAsRegistered, hbinned, hreg], hbinned⟩

end Image

end ColliderML
