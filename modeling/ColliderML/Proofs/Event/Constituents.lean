import ColliderML.Proofs.Outcome
import ColliderML.Event.Constituents
import ColliderML.Command.EventReads

/-!
# Matching jet constituents to flow entries

Matching looks, for every reference of every jet, at the positions of the
identifiers of the event that equal it, ascending, and concatenates them over the
references of the jet. When no reference equals two identifiers of its event,
each reference gives at most one position, and gathering a component through the
matches gives, for every jet, the component of exactly the particles its
references name, one per reference that names a particle and in reference order.

The momenta of a flow branch are a record array whose iteration yields plain rows,
so the gathering loop over them fails as soon as a jet has a match; and joining the
matched momenta of the three branches keeps their data alone, so no component of the
constituents of an events tree is ever read.
-/

namespace ColliderML

namespace Constituents

open Command

section Positions

variable {α : Type} (eq : α → α → Bool)

def positions (ids : List α) (r : α) : List Nat :=
  (List.range ids.length).filter (fun k => ids[k]?.any (eq r))

@[simp] theorem positions_nil (r : α) : positions eq [] r = [] := rfl

theorem positions_cons (a : α) (ids : List α) (r : α) :
    positions eq (a :: ids) r =
      (if eq r a then [0] else []) ++ (positions eq ids r).map (· + 1) := by
  simp only [positions, List.length_cons, List.range_succ_eq_map, List.filter_cons,
    List.filter_map]
  cases h : eq r a <;> simp [h, Function.comp_def]

theorem mem_positions {ids : List α} {r : α} {k : Nat} :
    k ∈ positions eq ids r ↔ ∃ h : k < ids.length, eq r ids[k] = true := by
  simp only [positions, List.mem_filter, List.mem_range]
  exact ⟨fun ⟨h, hk⟩ => ⟨h, by simpa [List.getElem?_eq_getElem h] using hk⟩,
    fun ⟨h, hk⟩ => ⟨h, by simpa [List.getElem?_eq_getElem h] using hk⟩⟩

theorem positions_eq_nil {ids : List α} {r : α} :
    positions eq ids r = [] ↔ ∀ b ∈ ids, eq r b = false := by
  rw [List.eq_nil_iff_forall_not_mem]
  constructor
  · intro h b hb
    obtain ⟨k, hk, rfl⟩ := List.getElem_of_mem hb
    exact Bool.eq_false_iff.2 fun hr => h k ((mem_positions eq).2 ⟨hk, hr⟩)
  · rintro h k hk
    obtain ⟨hk, hr⟩ := (mem_positions eq).1 hk
    simp [h _ (List.getElem_mem hk)] at hr

theorem positions_eq_findIdx? {ids : List α} {r : α}
    (h : ids.Pairwise (fun a b => ¬ (eq r a = true ∧ eq r b = true))) :
    positions eq ids r = (ids.findIdx? (eq r)).toList := by
  induction ids with
  | nil => rfl
  | cons a ids ih =>
    rw [List.pairwise_cons] at h
    rw [positions_cons, List.findIdx?_cons]
    cases ha : eq r a with
    | false => simp [ih h.2, Option.toList_map]
    | true =>
      have hrest : positions eq ids r = [] :=
        (positions_eq_nil eq).2 fun b hb => Bool.eq_false_iff.2 fun hb' => h.1 b hb ⟨ha, hb'⟩
      simp [hrest]

theorem zipIdx_filter_map (ids : List α) (r : α) (n : Nat) :
    ((ids.zipIdx n).filter (fun e => eq r e.1)).map (·.2) =
      (positions eq ids r).map (· + n) := by
  induction ids generalizing n with
  | nil => rfl
  | cons a ids ih =>
    rw [List.zipIdx_cons, positions_cons, List.filter_cons]
    cases h : eq r a <;> simp [ih, Function.comp_def, Nat.add_assoc, Nat.add_comm 1 n]

theorem matchAll_eq (ids : List (List α)) (refs : List (List (List α))) :
    matchAll eq ids refs =
      (ids.zip refs).map (fun e => e.2.map (fun jet => jet.flatMap (positions eq e.1))) := by
  simp only [matchAll, matchRow]
  congr
  funext e
  congr
  funext jet
  congr
  funext r
  simpa using zipIdx_filter_map eq e.1 r 0

/-- No reference of a jet equals two of the identifiers: the identifiers are distinct
as far as the references can tell. -/
def SeenDistinct (ids : List α) (jets : List (List α)) : Prop :=
  ∀ jet ∈ jets, ∀ r ∈ jet, ids.Pairwise (fun a b => ¬ (eq r a = true ∧ eq r b = true))

instance (ids : List α) (jets : List (List α)) : Decidable (SeenDistinct eq ids jets) :=
  inferInstanceAs (Decidable (∀ jet ∈ jets, ∀ r ∈ jet, ids.Pairwise _))

/-- The particles a jet's references name: for each reference in order, the particle at
the identifier equal to it, when there is one. -/
def referenced {β : Type} (ids : List α) (particles : List β) (jet : List α) : List β :=
  jet.filterMap (fun r => (ids.findIdx? (eq r)).bind (particles[·]?))

theorem filterMap_flatMap_positions {β : Type} {ids jet : List α} (g : Nat → Option β)
    (h : ∀ r ∈ jet, ids.Pairwise (fun a b => ¬ (eq r a = true ∧ eq r b = true))) :
    (jet.flatMap (positions eq ids)).filterMap g =
      jet.filterMap (fun r => (ids.findIdx? (eq r)).bind g) := by
  induction jet with
  | nil => rfl
  | cons r jet ih =>
    rw [List.flatMap_cons, List.filterMap_append, positions_eq_findIdx? eq (h r (by simp)),
      ih fun r' hr' => h r' (by simp [hr']), List.filterMap_cons]
    cases ids.findIdx? (eq r) with
    | none => simp
    | some i => cases hg : g i <;> simp [hg]

end Positions

/-! ## Gathering a component through the matches -/

theorem gather_eq_ok {records : List Datum} {found : List (List (List Nat))} {c : String}
    (h : ∀ e ∈ records.zip found, ∀ jet ∈ e.2, ∀ i ∈ jet,
      ∃ p, (itemsOf e.1)[i]? = some p ∧ p.hasField c = true) :
    gather records found c = .ok (.list ((records.zip found).map fun e =>
      .list (e.2.map fun jet => .list (jet.filterMap fun i => ((itemsOf e.1)[i]?).bind (·.field? c))))) := by
  unfold gather
  rw [Outcome.mapM_eq_ok_map fun e he => ?event]
  · rfl
  case event =>
    dsimp only
    rw [Outcome.mapM_eq_ok_map fun jet hjet => ?jet]
    · rfl
    case jet =>
      rw [Outcome.mapM_eq_ok_filterMap fun i hi => ?particle]
      · rfl
      case particle =>
        obtain ⟨p, hp, hc⟩ := h e he jet hjet i hi
        obtain ⟨v, hv⟩ := Option.isSome_iff_exists.1 hc
        exact ⟨v, by simp [hp, hv], by simp [hp, componentOf, hv]⟩

theorem mem_zip_of_mem_zip_zip {β γ δ : Type} {a : β} {b : γ} {c : δ} {xs : List β}
    {ys : List γ} {zs : List δ} (h : (a, b, c) ∈ xs.zip (ys.zip zs)) : (a, b) ∈ xs.zip ys := by
  induction xs generalizing ys zs with
  | nil => simp at h
  | cons x xs ih =>
    cases ys with
    | nil => simp at h
    | cons y ys =>
      cases zs with
      | nil => simp at h
      | cons z zs =>
        simp only [List.zip_cons_cons, List.mem_cons, Prod.mk.injEq] at h ⊢
        rcases h with ⟨rfl, rfl, rfl⟩ | h
        · exact .inl ⟨rfl, rfl⟩
        · exact .inr (ih h)

section Gather

variable {α : Type} (eq : α → α → Bool)

theorem gather_matchAll (records : List Datum) (ids : List (List α))
    (refs : List (List (List α))) (c : String)
    (hseen : ∀ e ∈ ids.zip refs, SeenDistinct eq e.1 e.2)
    (hlen : ∀ x ∈ records.zip ids, x.2.length ≤ (itemsOf x.1).length)
    (hfield : ∀ rec ∈ records, ∀ p ∈ itemsOf rec, p.hasField c = true) :
    gather records (matchAll eq ids refs) c =
      .ok (.list ((records.zip (ids.zip refs)).map fun x => .list (x.2.2.map fun jet =>
        .list ((referenced eq x.2.1 (itemsOf x.1) jet).filterMap (·.field? c))))) := by
  rw [matchAll_eq, gather_eq_ok, List.zip_map_right, List.map_map]
  · congr 2
    apply List.map_congr_left
    rintro ⟨rec, evIds, jets⟩ hx
    have hsd : SeenDistinct eq evIds jets := hseen _ (List.of_mem_zip hx).2
    simp only [Function.comp, Prod.map, id, List.map_map]
    congr 1
    apply List.map_congr_left
    intro jet hjet
    simp only [Function.comp_apply]
    rw [filterMap_flatMap_positions eq _ (hsd jet hjet), referenced, List.filterMap_filterMap]
    simp [Option.bind_assoc]
  · intro e he jet hjet i hi
    rw [List.zip_map_right, List.mem_map] at he
    obtain ⟨⟨rec, evIds, jets⟩, hx, rfl⟩ := he
    obtain ⟨jr, -, rfl⟩ := List.mem_map.1 hjet
    obtain ⟨r, -, hr⟩ := List.mem_flatMap.1 hi
    obtain ⟨hk, -⟩ := (mem_positions eq).1 hr
    have hi' : i < (itemsOf rec).length := lt_of_lt_of_le hk (hlen _ (mem_zip_of_mem_zip_zip hx))
    exact ⟨_, List.getElem?_eq_getElem hi',
      hfield rec (List.of_mem_zip hx).1 _ (List.getElem_mem hi')⟩

end Gather

/-! ## Constituents of an events tree -/

theorem entryComponent_isOk (row : Tensor) (i : Int) (name : String) :
    (entryComponent row i name).isOk = false := by
  unfold entryComponent
  split
  · rfl
  · exact Outcome.isOk_bind_eq_false fun _ => rfl

theorem gatherEvent_isOk_iff (row positions : Tensor) (name : String) :
    (gatherEvent row positions name).isOk = true ↔ ∀ jet ∈ positions.rows, jet.toList = [] := by
  unfold gatherEvent
  simp only [Outcome.isOk_bind_pure, Outcome.isOk_mapM_iff, entryComponent_isOk]
  simp [List.eq_nil_iff_forall_not_mem]

theorem takeMomentum4d_isOk_iff (a : FieldArray) (positions : Tensor) :
    (takeMomentum4d a positions).isOk = true ↔
      ∀ e ∈ a.data.rows.zip positions.rows, ∀ jet ∈ e.2.rows, jet.toList = [] := by
  unfold takeMomentum4d
  rw [Outcome.isOk_bind_pure, Outcome.isOk_mapM_iff]
  refine forall₂_congr fun e _ => ⟨fun h => ?_, fun hnone => ?_⟩
  · obtain ⟨pt, hpt, -⟩ := Outcome.isOk_bind_iff.1 h
    exact (gatherEvent_isOk_iff _ _ _).1 (by rw [hpt]; rfl)
  · -- the four components of the event are gathered alike: with no positions, from nothing
    have hok := fun name => Outcome.exists_eq_ok_of_isOk ((gatherEvent_isOk_iff e.1 e.2 name).2 hnone)
    obtain ⟨pt, hpt⟩ := hok "pt"
    obtain ⟨phi, hphi⟩ := hok "phi"
    obtain ⟨eta, heta⟩ := hok "eta"
    obtain ⟨mass, hmass⟩ := hok "mass"
    simp only [hpt, hphi, heta, hmass, Outcome.ok_bind]
    rfl

theorem constituents_eq_ok {ev : Events} {key : String} {a : FieldArray}
    (h : constituents ev key = .ok a) : a.fields = [] := by
  unfold constituents at h
  obtain ⟨refs, -, h⟩ := Outcome.bind_eq_ok.1 h
  obtain ⟨flows, -, h⟩ := Outcome.bind_eq_ok.1 h
  obtain ⟨matched, -, h⟩ := Outcome.bind_eq_ok.1 h
  obtain ⟨joined, -, h⟩ := Outcome.bind_eq_ok.1 h
  cases h
  rfl

theorem component_isOk_eq_false (ev : Events) (key attr : String) :
    (component ev key attr).isOk = false := by
  unfold component
  rcases h : constituents ev key with e | ⟨data, fields⟩
  · rfl
  · obtain rfl : fields = [] := constituents_eq_ok h
    rfl

/-! ## Matching, gathering and constituents together -/

/-- Matching lists, per jet, the ascending positions of the identifiers equal to each
reference in turn; gathering a component of records through the matches gives, when the
identifiers are distinct as the references see them, the component of exactly the
particles the references name, in reference order. Gathering from a branch's momenta
held as a record array succeeds exactly when no jet has a match, and the constituents
of an events tree are never read. -/
theorem matching_gathers_referenced_particles (ids : List (List Datum))
    (refs : List (List (List Datum))) (records : List Datum) (c : String) (a : FieldArray)
    (found : Tensor) (ev : Events) (key attr : String) :
    matchAll Datum.pyEq ids refs =
        (ids.zip refs).map (fun e => e.2.map (fun jet => jet.flatMap (positions Datum.pyEq e.1))) ∧
      ((∀ e ∈ ids.zip refs, SeenDistinct Datum.pyEq e.1 e.2) →
        (∀ x ∈ records.zip ids, x.2.length ≤ (itemsOf x.1).length) →
        (∀ rec ∈ records, ∀ p ∈ itemsOf rec, p.hasField c = true) →
        gather records (matchAll Datum.pyEq ids refs) c =
          .ok (.list ((records.zip (ids.zip refs)).map fun x => .list (x.2.2.map fun jet =>
            .list ((referenced Datum.pyEq x.2.1 (itemsOf x.1) jet).filterMap (·.field? c)))))) ∧
      ((takeMomentum4d a found).isOk = true ↔
        ∀ e ∈ a.data.rows.zip found.rows, ∀ jet ∈ e.2.rows, jet.toList = []) ∧
      (component ev key attr).isOk = false :=
  ⟨matchAll_eq Datum.pyEq ids refs, gather_matchAll Datum.pyEq records ids refs c,
    takeMomentum4d_isOk_iff a found, component_isOk_eq_false ev key attr⟩

def trackRecords : List Datum :=
  [.list ([1, 2, 3].map fun (k : Int) =>
    .dict [("pt", .int k), ("eta", .int 0), ("phi", .int 0), ("mass", .int 0)])]

def trackIds : List (List Datum) := [[.int 5, .int 6, .int 7]]

def trackJets : List (List (List Datum)) := [[[.int 6, .int 7], [.int 5]]]

theorem matching_gathers_referenced_particles_twoJets :
    (∀ e ∈ trackIds.zip trackJets, SeenDistinct Datum.pyEq e.1 e.2) ∧
      (∀ x ∈ trackRecords.zip trackIds, x.2.length ≤ (itemsOf x.1).length) ∧
      (∀ rec ∈ trackRecords, ∀ p ∈ itemsOf rec, p.hasField "pt" = true) ∧
      gather trackRecords (matchAll Datum.pyEq trackIds trackJets) "pt" =
        .ok (.list [.list [.list [.int 2, .int 3], .list [.int 1]]]) := by
  have hseen : ∀ e ∈ trackIds.zip trackJets, SeenDistinct Datum.pyEq e.1 e.2 := by decide
  have hlen : ∀ x ∈ trackRecords.zip trackIds, x.2.length ≤ (itemsOf x.1).length := by decide
  have hfield : ∀ rec ∈ trackRecords, ∀ p ∈ itemsOf rec, p.hasField "pt" = true := by decide
  refine ⟨hseen, hlen, hfield, ?_⟩
  rw [(matching_gathers_referenced_particles trackIds trackJets trackRecords "pt" ⟨default, []⟩ default
    ⟨[]⟩ "" "").2.1 hseen hlen hfield]
  rfl

/-- One event of two tracks (identifiers 1 and 2), a photon (3) and a neutral hadron (4),
with two jets: the first references the first track and the photon, the second the
other two. -/
def flowEvents : Events :=
  let branch := fun (k : String) (t : DType) (xs : List Scalar) =>
    (k, ({ dtype := t, shape := [1, xs.length], data := xs.toArray } : Tensor))
  let refs : Tensor := { dtype := .int64, shape := [1, 2, 2], data := #[.int 1, .int 3, .int 2, .int 4] }
  ⟨[branch "EFlowNeutralHadron.ET" .float64 [.real 9.28],
    branch "EFlowNeutralHadron.Eta" .float64 [.real (-0.77)],
    branch "EFlowNeutralHadron.Phi" .float64 [.real 0.43],
    branch "EFlowNeutralHadron.fUniqueID" .int64 [.int 4],
    branch "EFlowPhoton.ET" .float64 [.real 3.91],
    branch "EFlowPhoton.Eta" .float64 [.real (-0.92)],
    branch "EFlowPhoton.Phi" .float64 [.real (-0.33)],
    branch "EFlowPhoton.fUniqueID" .int64 [.int 3],
    branch "EFlowTrack.Eta" .float64 [.real 0.48, .real 0.14],
    branch "EFlowTrack.PT" .float64 [.real 5.81, .real 8.53],
    branch "EFlowTrack.Phi" .float64 [.real (-0.11), .real 0.23],
    branch "EFlowTrack.fUniqueID" .int64 [.int 1, .int 2],
    ("Jet.Constituents", refs)]⟩

/-- The first jet's constituents are a track and a photon, yet their transverse momenta
are not read: the first match ends on an element without components. -/
theorem matched_constituents_unread :
    component flowEvents "Jet.Constituents" "pt" = .error (.noMember "numpy.float32" "pt") := by
  rfl

end Constituents

end ColliderML
