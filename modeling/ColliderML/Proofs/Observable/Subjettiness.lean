import ColliderML.Proofs.Observable.Window
import ColliderML.Observable.Build

/-!
# Which τ value a subjet count reads

N-subjettiness τ_N reads, for each entry of an object's branch, one of the `w`
values of the branch's τ array (five for `Tau[5]`): count `n` stands for
position `n - 1` of the last axis. That position is taken as an array index,
so it is counted from the end when negative. A count from 1 to `w` reads its
own value; a count from `1 - w` to 0 reads value `n - 1 + w` (τ_0 is τ_w); any
other count is refused as an index off the axis. A ratio τ_M/τ_N reads both
counts the same way, M first. The main result is
`Observable.tau_count_selects_column_or_fails`.
-/

namespace ColliderML

namespace Observable

/-- The position a count reads along an axis of `w` τ values: `n - 1`, counted
from the end when negative. -/
def tauColumn (w : Nat) (n : Int) : Nat := ((n - 1) % w).toNat

theorem tauColumn_eq {w : Nat} {n : Int} (hlo : 1 - (w : Int) ≤ n) (hhi : n ≤ w) :
    tauColumn w n = (if 1 ≤ n then n - 1 else n - 1 + w).toNat := by
  unfold tauColumn
  split
  · rw [Int.emod_eq_of_lt (by omega) (by omega)]
  · rw [Int.emod_eq_add_self_emod, Int.emod_eq_of_lt (by omega) (by omega)]

theorem tauColumn_lt {w : Nat} {n : Int} (hlo : 1 - (w : Int) ≤ n) (hhi : n ≤ w) :
    tauColumn w n < w := by
  rw [tauColumn_eq hlo hhi]
  split <;> omega

@[simp] theorem countIndex_int (n : Int) : countIndex (.int n) = .ok (.pos (n - 1)) := rfl

section Reading

variable {ev : Events} {po : PhysicsObject} {F : Tensor} {E k a w : Nat} {start : Option Int}
  {stop : Option Nat}

theorem readTau_column {n : Int} (hsrc : tauSource ev po = .ok F) (hF : F.shape = [E, k, w])
    (hlo : 1 - (w : Int) ≤ n) (hhi : n ≤ w)
    (hslices : po.slices = [.range start (stop.map Int.ofNat)]) (ha : start.getD 0 = a) :
    ∃ V, readTau ev po (.int n) = .ok (padForSlices V po.slices) ∧
      V.shape = [E, min (stop.getD k) k - a] ∧
      ∀ e < E, ∀ j < min (stop.getD k) k - a, V.get [e, j] = F.get [e, a + j, tauColumn w n] := by
  obtain ⟨A, hA, -, hAshape, hAget⟩ := Tensor.index_all_range hF ha stop
  obtain ⟨V, hV, hVshape, hVget⟩ := Tensor.index_all_all_int hAshape (i := n - 1) (by omega) (by omega)
  refine ⟨V, ?_, hVshape, fun e he j hj => ?_⟩
  · rw [readTau_eq, hsrc, Outcome.ok_bind, hslices]
    simp only [List.head?_cons, Option.map_some, Option.getD_some, sliceIndex, hA, countIndex_int,
      Outcome.ok_bind, hV]
    rfl
  · rw [hVget e j he hj]
    exact hAget e j [tauColumn w n] he hj (.cons (tauColumn_lt hlo hhi) .nil)

theorem readTau_error {n : Int} (hsrc : tauSource ev po = .ok F) (hF : F.shape = [E, k, w])
    (hn : n < 1 - (w : Int) ∨ (w : Int) < n)
    (hslices : po.slices = [.range start (stop.map Int.ofNat)]) (ha : start.getD 0 = a) :
    readTau ev po (.int n) = .error (.indexBeyondAxis (n - 1) 2 w) := by
  obtain ⟨A, hA, -, hAshape, -⟩ := Tensor.index_all_range hF ha stop
  have hoff : n - 1 < -(w : Int) ∨ (w : Int) ≤ n - 1 := by omega
  rw [readTau_eq, hsrc, Outcome.ok_bind, hslices]
  simp only [List.head?_cons, Option.map_some, Option.getD_some, sliceIndex, hA, countIndex_int,
    Outcome.ok_bind, Tensor.index_all_all_int_error hAshape hoff]
  rfl

end Reading

/-- The τ value count `n` reads among `w`, written out: value `n - 1` for a
positive count, value `n - 1 + w` for the others. -/
def countedValue (F : Tensor) (w : Nat) (n : Int) (e i : Nat) : Scalar :=
  F.get [e, i, (if 1 ≤ n then n - 1 else n - 1 + w).toNat]

/-- What the τ observables of an object read from a τ array of `E` events, `k`
entries and `w` values per entry, sliced from entry `a` up to `stop`: a count
`n` with `1 - w ≤ n ≤ w` reads the window of its counted value, any other count
is refused as an index off the τ axis, and a ratio reads the quotient of its
two counts' values or is refused for the first count, M before N, off the axis. -/
structure TauReads (ev : Events) (po : PhysicsObject) (F : Tensor) (E k a w : Nat)
    (stop : Option Nat) : Prop where
  count : ∀ (o : Observable) (n : Int), (o.kind = .nSubjettiness ∨ o.kind = .tauN) →
    o.counts = .one (.int n) → o.physicsObject = some po →
    (1 - (w : Int) ≤ n ∧ n ≤ w →
      ∃ T, read ev o = .ok T ∧ Window T E k a stop (fun e i => (countedValue F w n e i).toFloat)) ∧
    (n < 1 - (w : Int) ∨ (w : Int) < n → read ev o = .error (.indexBeyondAxis (n - 1) 2 w))
  ratio : ∀ (o : Observable) (m n : Int), (o.kind = .nSubjettinessRatio ∨ o.kind = .tauMN) →
    o.counts = .two (.int m) (.int n) → o.physicsObject = some po →
    (1 - (w : Int) ≤ m ∧ m ≤ w → 1 - (w : Int) ≤ n ∧ n ≤ w →
      ∃ T, read ev o = .ok T ∧ Window T E k a stop (fun e i =>
        (Scalar.arith T.dtype .div (countedValue F w m e i) (countedValue F w n e i)).toFloat)) ∧
    (m < 1 - (w : Int) ∨ (w : Int) < m → read ev o = .error (.indexBeyondAxis (m - 1) 2 w)) ∧
    (1 - (w : Int) ≤ m ∧ m ≤ w → n < 1 - (w : Int) ∨ (w : Int) < n →
      read ev o = .error (.indexBeyondAxis (n - 1) 2 w))

/-- For an object of one level whose branch has a τ array of `w` values per
entry, every integer count reads value `n - 1` of each entry when `1 ≤ n ≤ w`,
value `n - 1 + w` when `1 - w ≤ n ≤ 0`, and is refused otherwise; ratios read
the quotient of their counts' values. -/
theorem tau_count_selects_column_or_fails {ev : Events} {po : PhysicsObject} {F : Tensor}
    {E k a w : Nat} {start : Option Int} {stop : Option Nat}
    (hslices : po.slices = [.range start (stop.map Int.ofNat)]) (ha : start.getD 0 = a)
    (hsrc : tauSource ev po = .ok F) (hF : F.shape = [E, k, w]) :
    TauReads ev po F E k a w stop := by
  -- the counted value is the value at the count's column
  have hcol : ∀ n : Int, 1 - (w : Int) ≤ n → n ≤ w → ∀ e i,
      countedValue F w n e i = F.get [e, i, tauColumn w n] := by
    intro n hlo hhi e i
    rw [countedValue, tauColumn_eq hlo hhi]
  refine ⟨fun o n hk hc hpo => ⟨fun ⟨hlo, hhi⟩ => ?_, fun hn => ?_⟩,
    fun o m n hk hc hpo => ⟨fun ⟨hmlo, hmhi⟩ ⟨hnlo, hnhi⟩ => ?_, fun hm => ?_,
      fun ⟨hmlo, hmhi⟩ hn => ?_⟩⟩
  · -- τ_n within the axis: the window of its column
    obtain ⟨V, hV, hVshape, hVget⟩ := readTau_column hsrc hF hlo hhi hslices ha
    refine ⟨_, by rw [read_of_tau hk hpo, countOf, hc, hV], ?_⟩
    rw [hslices]
    exact window_of_slice ha stop hVshape fun e he j hj => by
      rw [hVget e he j hj, hcol n hlo hhi]
  · rw [read_of_tau hk hpo, countOf, hc, readTau_error hsrc hF hn hslices ha]
  · -- τ_m/τ_n with both counts on the axis: the quotient of the two windows
    obtain ⟨Vm, hVm, hmshape, hmget⟩ := readTau_column hsrc hF hmlo hmhi hslices ha
    obtain ⟨Vn, hVn, hnshape, hnget⟩ := readTau_column hsrc hF hnlo hnhi hslices ha
    obtain ⟨T, hT, hw⟩ := window_of_quotient (f := fun e i => F.get [e, i, tauColumn w m])
      (g := fun e i => F.get [e, i, tauColumn w n]) ha hmshape hnshape hmget hnget
    refine ⟨T, by rw [read_of_tauRatio hk hc hpo, hVm, hVn, hslices]; simpa using hT, ?_⟩
    simpa only [hcol m hmlo hmhi, hcol n hnlo hnhi] using hw
  · rw [read_of_tauRatio hk hc hpo, readTau_error hsrc hF hm hslices ha]
    rfl
  · obtain ⟨Vm, hVm, -, -⟩ := readTau_column hsrc hF hmlo hmhi hslices ha
    rw [read_of_tauRatio hk hc hpo, hVm, Outcome.ok_bind, readTau_error hsrc hF hn hslices ha]
    rfl

def fatJetTaus : Tensor :=
  { dtype := .float32, shape := [1, 1, 5], data := #[.real 1, .real 2, .real 3, .real 4, .real 5] }

def fatJetEvents : Events := ⟨[("FatJet.Tau[5]", fatJetTaus)]⟩

/-- The τ observables of the leading fat jet of that event. -/
theorem tau_count_selects_column_or_fails_leadingFatJet :
    (PhysicsObject.single "FatJet" 0).slices = [.range (some 0) ((some 1).map Int.ofNat)] ∧
      tauSource fatJetEvents (.single "FatJet" 0) = .ok fatJetTaus ∧ fatJetTaus.shape = [1, 1, 5] ∧
      TauReads fatJetEvents (.single "FatJet" 0) fatJetTaus 1 1 0 5 (some 1) :=
  ⟨rfl, rfl, rfl, tau_count_selects_column_or_fails rfl rfl rfl rfl⟩

/-- The name `FatJet0.tau0` reads τ_0 of the leading fat jet, and reading it
gives τ_5 where no τ_0 exists. -/
theorem tau0_reads_tau5 :
    ((parse AliasTable.shipped "FatJet0.tau0" []).toOption.map fun r => r.map fun o =>
      ((match o.counts with
        | .one (.int n) => n == 0
        | _ => false),
       (read fatJetEvents o).toOption.map fun T => (T.shape, (T.get [0, 0]).toFloat == 5))) =
      some (some (true, some ([1, 1], true))) := by
  decide +kernel

end Observable

end ColliderML
