import Mathlib

/-!
# The order of floating-point numbers

Floats compare by unpacking them: NaN compares as nothing does, and every
other float stands at a place in one linear order, given here as a rank in
`ℤ ×ₗ ℤ ×ₗ ℤ`: negative infinity, the negative numbers, the zeros, the positive
numbers, positive infinity. Two floats other than NaN compare as their ranks
do (`FloatOrder.compare_eq_unpackedRank`), so `<` on them is transitive and
asymmetric and `¬ x < y` means `y ≤ x`; a comparison that holds rules NaN out.
-/

namespace ColliderML

namespace FloatOrder

open Float.Model

/-- Where an unpacked float stands among floats, for all but NaN: negative
infinity, the negative numbers (a larger exponent, then a larger mantissa, lies
further down), the zeros, the positive numbers, positive infinity. -/
def unpackedRank : UnpackedFloat → ℤ ×ₗ ℤ ×ₗ ℤ
  | .infinity .negative => toLex (0, toLex (0, 0))
  | .finite .negative m e _ => toLex (1, toLex (-e, -(m : ℤ)))
  | .zero _ => toLex (2, toLex (0, 0))
  | .finite .positive m e _ => toLex (3, toLex (e, (m : ℤ)))
  | .infinity .positive => toLex (4, toLex (0, 0))
  | .notANumber => toLex (0, toLex (0, 0))

private theorem compare_natCast (m n : ℕ) : compare (m : ℤ) (n : ℤ) = compare m n := by
  simp [compare, compareOfLessAndEq]

private theorem compare_neg_neg (a b : ℤ) : compare (-a) (-b) = compare b a := by
  simp only [compare, compareOfLessAndEq]
  split_ifs <;> first | rfl | omega

theorem compare_eq_unpackedRank {a b : UnpackedFloat} (ha : a.isNaN = false) (hb : b.isNaN = false) :
    a.compare b = some (compare (unpackedRank a) (unpackedRank b)) := by
  rcases a with ⟨_ | _⟩ | _ | ⟨_ | _⟩ | ⟨_ | _, m₁, e₁, h₁⟩ <;>
  rcases b with ⟨_ | _⟩ | _ | ⟨_ | _⟩ | ⟨_ | _, m₂, e₂, h₂⟩ <;>
  simp_all [UnpackedFloat.compare, unpackedRank, UnpackedFloat.isNaN, Prod.Lex.compare_def, compareLex,
    compareOn, compare_natCast, compare_neg_neg, Ordering.swap_then, Int.compare_swap, Nat.compare_swap] <;>
  rfl

theorem compare_notANumber_left (b : UnpackedFloat) : UnpackedFloat.notANumber.compare b = none := rfl

theorem compare_notANumber_right (a : UnpackedFloat) : a.compare .notANumber = none := by
  cases a <;> rfl

theorem eq_notANumber_of_isNaN {a : UnpackedFloat} (h : a.isNaN = true) : a = .notANumber := by
  cases a <;> simp_all [UnpackedFloat.isNaN]

def rank (x : Float) : ℤ ×ₗ ℤ ×ₗ ℤ := unpackedRank x.toModel.unpack

variable {x y z : Float}

theorem lt_iff_unpacked : x < y ↔ x.toModel.unpack.lt y.toModel.unpack = true := by
  show decide (x.toModel.unpack.lt y.toModel.unpack = true) = true ↔ _
  exact decide_eq_true_iff

theorem le_iff_unpacked : x ≤ y ↔ x.toModel.unpack.le y.toModel.unpack = true := by
  show decide (x.toModel.unpack.le y.toModel.unpack = true) = true ↔ _
  exact decide_eq_true_iff

theorem lt_iff_rank_lt (hx : x.isNaN = false) (hy : y.isNaN = false) : x < y ↔ rank x < rank y := by
  rw [lt_iff_unpacked, UnpackedFloat.lt, compare_eq_unpackedRank hx hy]
  simp [rank, compare_lt_iff_lt]

theorem le_iff_rank_le (hx : x.isNaN = false) (hy : y.isNaN = false) : x ≤ y ↔ rank x ≤ rank y := by
  rw [le_iff_unpacked, UnpackedFloat.le, compare_eq_unpackedRank hx hy]
  simp [rank, Ordering.isLE_iff_ne_gt, compare_gt_iff_gt]

theorem beq_iff_rank_eq (hx : x.isNaN = false) (hy : y.isNaN = false) : (x == y) = true ↔ rank x = rank y := by
  show x.toModel.unpack.beq y.toModel.unpack = true ↔ _
  rw [UnpackedFloat.beq, compare_eq_unpackedRank hx hy]
  simp [rank, compare_eq_iff_eq]

theorem not_lt_of_isNaN_left (hx : x.isNaN = true) : ¬ x < y := by
  rw [lt_iff_unpacked, eq_notANumber_of_isNaN hx]
  simp [UnpackedFloat.lt, compare_notANumber_left]

theorem not_lt_of_isNaN_right (hy : y.isNaN = true) : ¬ x < y := by
  rw [lt_iff_unpacked, eq_notANumber_of_isNaN hy]
  simp [UnpackedFloat.lt, compare_notANumber_right]

theorem not_le_of_isNaN_left (hx : x.isNaN = true) : ¬ x ≤ y := by
  rw [le_iff_unpacked, eq_notANumber_of_isNaN hx]
  simp [UnpackedFloat.le, compare_notANumber_left]

theorem not_le_of_isNaN_right (hy : y.isNaN = true) : ¬ x ≤ y := by
  rw [le_iff_unpacked, eq_notANumber_of_isNaN hy]
  simp [UnpackedFloat.le, compare_notANumber_right]

theorem isNaN_eq_false_of_lt (h : x < y) : x.isNaN = false ∧ y.isNaN = false := by
  constructor
  · cases hx : x.isNaN
    · rfl
    · exact absurd h (not_lt_of_isNaN_left hx)
  · cases hy : y.isNaN
    · rfl
    · exact absurd h (not_lt_of_isNaN_right hy)

theorem isNaN_eq_false_of_le (h : x ≤ y) : x.isNaN = false ∧ y.isNaN = false := by
  constructor
  · cases hx : x.isNaN
    · rfl
    · exact absurd h (not_le_of_isNaN_left hx)
  · cases hy : y.isNaN
    · rfl
    · exact absurd h (not_le_of_isNaN_right hy)

theorem lt_trans (hxy : x < y) (hyz : y < z) : x < z := by
  obtain ⟨hx, hy⟩ := isNaN_eq_false_of_lt hxy
  have hz := (isNaN_eq_false_of_lt hyz).2
  rw [lt_iff_rank_lt hx hy] at hxy
  rw [lt_iff_rank_lt hy hz] at hyz
  exact (lt_iff_rank_lt hx hz).mpr (hxy.trans hyz)

theorem lt_of_le_of_lt (hxy : x ≤ y) (hyz : y < z) : x < z := by
  obtain ⟨hx, hy⟩ := isNaN_eq_false_of_le hxy
  have hz := (isNaN_eq_false_of_lt hyz).2
  rw [le_iff_rank_le hx hy] at hxy
  rw [lt_iff_rank_lt hy hz] at hyz
  exact (lt_iff_rank_lt hx hz).mpr (hxy.trans_lt hyz)

theorem lt_of_lt_of_le (hxy : x < y) (hyz : y ≤ z) : x < z := by
  obtain ⟨hx, hy⟩ := isNaN_eq_false_of_lt hxy
  have hz := (isNaN_eq_false_of_le hyz).2
  rw [lt_iff_rank_lt hx hy] at hxy
  rw [le_iff_rank_le hy hz] at hyz
  exact (lt_iff_rank_lt hx hz).mpr (hxy.trans_le hyz)

theorem lt_asymm (hxy : x < y) : ¬ y < x := by
  obtain ⟨hx, hy⟩ := isNaN_eq_false_of_lt hxy
  rw [lt_iff_rank_lt hx hy] at hxy
  rw [lt_iff_rank_lt hy hx]
  exact hxy.asymm

theorem not_lt_self (x : Float) : ¬ x < x := by
  cases hx : x.isNaN with
  | false =>
      rw [lt_iff_rank_lt hx hx]
      exact lt_irrefl _
  | true => exact not_lt_of_isNaN_left hx

end FloatOrder

end ColliderML
