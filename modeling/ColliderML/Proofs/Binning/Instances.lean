import Mathlib
import ColliderML.Proofs.Binning.Kernel
import ColliderML.Proofs.Number.FloatOrder
import ColliderML.Representation.Histogram
import ColliderML.Representation.Image.Center

/-!
# Floats and exact numbers as binning arithmetics

The histograms and bin centres of images are the generic ones of
`Binning` run in `Binning.float` (`Binning.fill_float`,
`Binning.direction_float`, `Binning.centerOf_float`), whose comparisons keep
the order laws (`Binning.lawful_float`). The same code in exact rational
arithmetic, `Binning.exact`, with `none` as the missing value, keeps them too,
and there a value in `[lo, hi)` lands in the half-open bin that holds it
(`Binning.bin_exactAxis`, `Binning.inBin_iff`).
-/

namespace ColliderML

namespace Binning

def float : Arith Float where
  le a b := decide (a ≤ b)
  lt a b := decide (a < b)
  beq a b := a == b
  add a b := a + b
  sub a b := a - b
  div a b := a / b
  ofNat := Float.ofNat
  zero := 0.0
  nan := 0.0 / 0.0
  isNaN := Float.isNaN
  trunc v := v.toUInt64.toNat

def ofBinAxis (a : BinAxis) : Axis Float := ⟨a.lo, a.hi, a.count⟩

def ofPoint (p : Histogram.Point) : Point Float := ⟨p.x, p.y, p.weight⟩

theorem fill_float (xa ya : BinAxis) (points : List Histogram.Point) :
    Histogram.fill xa ya points = fill float (ofBinAxis xa) (ofBinAxis ya) (points.map ofPoint) := by
  simp only [Histogram.fill, fill, List.foldlM_map]
  rfl

theorem direction_float (edges : List Float) : BinCenters.direction edges = direction float edges := by
  rcases edges with _ | ⟨first, rest⟩
  · rfl
  · rcases h : rest.dropWhile (· == first) with _ | ⟨next, more⟩
    · unfold BinCenters.direction direction
      simp only [float, h]
    · unfold BinCenters.direction direction
      simp only [float, h]
      have hany : ∀ (f : Float × Float → Float) (g : Float × Float → Float),
          ((next :: more).zip more).any (fun p => decide (f p < g p)) =
            ((next :: more).zip more).any (fun p => float.lt (f p) (g p)) := fun _ _ => rfl
      by_cases hlt : first < next
      · simp only [hlt, if_true]
        exact congrArg (fun b => if b = true then (0 : Int) else 1) (hany Prod.snd Prod.fst)
      · simp only [hlt, if_false]
        exact congrArg (fun b => if b = true then (0 : Int) else -1) (hany Prod.fst Prod.snd)

theorem centerOf_float (edges : List Float) (rising : Bool) (x : Float) :
    BinCenters.centerOf edges rising x = centerOf float edges rising x := rfl

theorem lawful_float : Lawful float where
  isNaN_of_lt h := FloatOrder.isNaN_eq_false_of_lt (of_decide_eq_true h)
  lt_trans h₁ h₂ := decide_eq_true (FloatOrder.lt_trans (of_decide_eq_true h₁) (of_decide_eq_true h₂))
  lt_of_le_of_lt h₁ h₂ :=
    decide_eq_true (FloatOrder.lt_of_le_of_lt (of_decide_eq_true h₁) (of_decide_eq_true h₂))
  lt_asymm h := decide_eq_false (FloatOrder.lt_asymm (of_decide_eq_true h))
  beq_of_lt {a b} h := by
    have hab : a < b := of_decide_eq_true h
    obtain ⟨ha, hb⟩ := FloatOrder.isNaN_eq_false_of_lt hab
    show (b == a) = false
    cases hba : (b == a)
    · rfl
    · have heq := (FloatOrder.beq_iff_rank_eq hb ha).mp hba
      have hlt := (FloatOrder.lt_iff_rank_lt ha hb).mp hab
      rw [heq] at hlt
      exact absurd hlt (lt_irrefl _)
  isNaN_nan := by decide

def exact : Arith (Option ℚ) where
  le a b := match a, b with | some p, some q => decide (p ≤ q) | _, _ => false
  lt a b := match a, b with | some p, some q => decide (p < q) | _, _ => false
  beq a b := match a, b with | some p, some q => decide (p = q) | _, _ => false
  add a b := match a, b with | some p, some q => some (p + q) | _, _ => none
  sub a b := match a, b with | some p, some q => some (p - q) | _, _ => none
  div a b := match a, b with | some p, some q => if q = 0 then none else some (p / q) | _, _ => none
  ofNat n := some n
  zero := some 0
  nan := none
  isNaN a := a.isNone
  trunc a := match a with | some q => ⌊q⌋₊ | none => 0

namespace exact

variable {p q : ℚ} {a b : Option ℚ}

@[simp] theorem le_some : exact.le (some p) (some q) = decide (p ≤ q) := rfl
@[simp] theorem lt_some : exact.lt (some p) (some q) = decide (p < q) := rfl
@[simp] theorem beq_some : exact.beq (some p) (some q) = decide (p = q) := rfl
@[simp] theorem add_some : exact.add (some p) (some q) = some (p + q) := rfl
@[simp] theorem sub_some : exact.sub (some p) (some q) = some (p - q) := rfl
@[simp] theorem div_some (hq : q ≠ 0) : exact.div (some p) (some q) = some (p / q) := by simp [exact, hq]
@[simp] theorem ofNat_eq (n : ℕ) : exact.ofNat n = some (n : ℚ) := rfl
@[simp] theorem zero_eq : exact.zero = some 0 := rfl
@[simp] theorem nan_eq : exact.nan = none := rfl
@[simp] theorem isNaN_eq : exact.isNaN a = a.isNone := rfl
@[simp] theorem trunc_some : exact.trunc (some p) = ⌊p⌋₊ := rfl

theorem eq_some_of_lt (h : exact.lt a b = true) : ∃ p q, a = some p ∧ b = some q ∧ p < q := by
  rcases a with _ | p <;> rcases b with _ | q <;> simp_all [exact]

theorem eq_some_of_le (h : exact.le a b = true) : ∃ p q, a = some p ∧ b = some q ∧ p ≤ q := by
  rcases a with _ | p <;> rcases b with _ | q <;> simp_all [exact]

end exact

theorem lawful_exact : Lawful exact where
  isNaN_of_lt h := by
    obtain ⟨p, q, rfl, rfl, -⟩ := exact.eq_some_of_lt h
    simp
  lt_trans h₁ h₂ := by
    obtain ⟨p, q, rfl, rfl, hpq⟩ := exact.eq_some_of_lt h₁
    obtain ⟨q', r, hq, rfl, hqr⟩ := exact.eq_some_of_lt h₂
    cases hq
    simpa using hpq.trans hqr
  lt_of_le_of_lt h₁ h₂ := by
    obtain ⟨p, q, rfl, rfl, hpq⟩ := exact.eq_some_of_le h₁
    obtain ⟨q', r, hq, rfl, hqr⟩ := exact.eq_some_of_lt h₂
    cases hq
    simpa using hpq.trans_lt hqr
  lt_asymm h := by
    obtain ⟨p, q, rfl, rfl, hpq⟩ := exact.eq_some_of_lt h
    simpa using hpq.le
  beq_of_lt h := by
    obtain ⟨p, q, rfl, rfl, hpq⟩ := exact.eq_some_of_lt h
    simpa using hpq.ne'
  isNaN_nan := rfl

section ExactBins

variable {lo hi : ℚ} {n : ℕ}

def exactAxis (lo hi : ℚ) (n : ℕ) : Axis (Option ℚ) := ⟨some lo, some hi, n⟩

theorem step_exactAxis (hn : 0 < n) : (exactAxis lo hi n).step exact = some ((hi - lo) / n) := by
  have : (n : ℚ) ≠ 0 := by exact_mod_cast hn.ne'
  simp [Axis.step, exactAxis, this]

theorem holds_exactAxis_some (x : ℚ) : (exactAxis lo hi n).holds exact (some x) = decide (lo ≤ x ∧ x < hi) := by
  simp [Axis.holds, exactAxis]

theorem holds_exactAxis_none : (exactAxis lo hi n).holds exact none = false := by
  simp [Axis.holds, exactAxis, exact]

/-- In exact arithmetic a value in `[lo, hi)` lies in bin `k`, the whole number of
widths from `lo`: at or above `lo + k * w` and below `lo + (k + 1) * w`; the last
bin is never needed as a bound. -/
theorem bin_exactAxis (hn : 0 < n) (hlt : lo < hi) {x : ℚ} (hlo : lo ≤ x) (hhi : x < hi) :
    (exactAxis lo hi n).bin exact (some ((hi - lo) / n)) (some x) = ⌊(x - lo) / ((hi - lo) / n)⌋₊ ∧
      ⌊(x - lo) / ((hi - lo) / n)⌋₊ < n ∧
      lo + ⌊(x - lo) / ((hi - lo) / n)⌋₊ * ((hi - lo) / n) ≤ x ∧
      x < lo + (⌊(x - lo) / ((hi - lo) / n)⌋₊ + 1) * ((hi - lo) / n) := by
  set w := (hi - lo) / n with hw
  have hnq : (0 : ℚ) < n := by exact_mod_cast hn
  have hwpos : 0 < w := div_pos (by linarith) hnq
  set t := (x - lo) / w with ht
  have ht0 : 0 ≤ t := div_nonneg (by linarith) hwpos.le
  have htn : t < n := by
    rw [ht, div_lt_iff₀ hwpos, hw, mul_div_cancel₀ _ hnq.ne']
    linarith
  have hfloor : ⌊t⌋₊ < n := (Nat.floor_lt ht0).mpr htn
  have hbin : (exactAxis lo hi n).bin exact (some w) (some x) = ⌊t⌋₊ := by
    simp [Axis.bin, exactAxis, hwpos.ne', ← ht]
    omega
  refine ⟨hbin, hfloor, ?_, ?_⟩
  · have h1 : (⌊t⌋₊ : ℚ) ≤ t := Nat.floor_le ht0
    have h2 : (⌊t⌋₊ : ℚ) * w ≤ x - lo := by
      rw [ht, le_div_iff₀ hwpos] at h1
      exact h1
    linarith
  · have h1 : t < ⌊t⌋₊ + 1 := Nat.lt_floor_add_one t
    have h2 : x - lo < (⌊t⌋₊ + 1) * w := by
      rw [ht, div_lt_iff₀ hwpos] at h1
      exact h1
    linarith


def exactPoint (q : ℚ × ℚ) : Point (Option ℚ) := ⟨some q.1, some q.2, some 1⟩

/-- Whether `x` lies in bin `k` of `n` equal bins of `[lo, hi)`: at or above its
lower edge and below its upper one. -/
def InBin (lo hi : ℚ) (n k : ℕ) (x : ℚ) : Prop :=
  lo + k * ((hi - lo) / n) ≤ x ∧ x < lo + (k + 1) * ((hi - lo) / n)

instance (lo hi : ℚ) (n k : ℕ) (x : ℚ) : Decidable (InBin lo hi n k x) :=
  inferInstanceAs (Decidable (_ ∧ _))

theorem inBin_iff (hn : 0 < n) (hlt : lo < hi) {k : ℕ} (hk : k < n) {x : ℚ} :
    InBin lo hi n k x ↔ (lo ≤ x ∧ x < hi) ∧ (exactAxis lo hi n).bin exact (some ((hi - lo) / n)) (some x) = k := by
  have hnq : (0 : ℚ) < n := by exact_mod_cast hn
  have hwpos : 0 < (hi - lo) / n := div_pos (by linarith) hnq
  constructor
  · rintro ⟨hkx, hxk⟩
    have hlo : lo ≤ x := le_trans (le_add_of_nonneg_right (by positivity)) hkx
    have hhi : x < hi := by
      have hkn : ((k : ℚ) + 1) ≤ n := by exact_mod_cast hk
      calc x < lo + (k + 1) * ((hi - lo) / n) := hxk
        _ ≤ lo + n * ((hi - lo) / n) := by gcongr
        _ = hi := by field_simp; ring
    obtain ⟨hbin, -⟩ := bin_exactAxis hn hlt hlo hhi
    refine ⟨⟨hlo, hhi⟩, hbin.trans ?_⟩
    rw [Nat.floor_eq_iff (div_nonneg (by linarith) hwpos.le), le_div_iff₀ hwpos, div_lt_iff₀ hwpos]
    constructor <;> linarith
  · rintro ⟨⟨hlo, hhi⟩, hbin⟩
    obtain ⟨hbin', -, hkx, hxk⟩ := bin_exactAxis hn hlt hlo hhi
    rw [hbin'] at hbin
    rw [← hbin]
    exact ⟨hkx, hxk⟩

end ExactBins

section ExactHistogram

variable {x0 x1 y0 y1 : ℚ} {nx ny : ℕ}

theorem cellOf_exactPoint_eq_some (hx : 0 < nx) (hy : 0 < ny) (hxlt : x0 < x1) (hylt : y0 < y1)
    {i j : ℕ} (hi : i < nx) (hj : j < ny) (q : ℚ × ℚ) :
    cellOf exact (exactAxis x0 x1 nx) (exactAxis y0 y1 ny) (some ((x1 - x0) / nx)) (some ((y1 - y0) / ny))
        (exactPoint q) = some (i, j) ↔ InBin x0 x1 nx i q.1 ∧ InBin y0 y1 ny j q.2 := by
  rw [inBin_iff hx hxlt hi, inBin_iff hy hylt hj]
  simp only [cellOf, exactPoint, holds_exactAxis_some]
  by_cases hqx : x0 ≤ q.1 ∧ q.1 < x1 <;> by_cases hqy : y0 ≤ q.2 ∧ q.2 < y1 <;> simp [hqx, hqy]

theorem foldl_add_weight (l : List (ℚ × ℚ)) (c : ℚ) :
    (l.map exactPoint).foldl (fun s p => exact.add s p.weight) (some c) = some (c + l.length) := by
  induction l generalizing c with
  | nil => simp
  | cons q l ih =>
    rw [List.map_cons, List.foldl_cons, exactPoint, exact.add_some, ih]
    simp only [List.length_cons, Nat.cast_add, Nat.cast_one]
    ring_nf

end ExactHistogram


end Binning

end ColliderML
