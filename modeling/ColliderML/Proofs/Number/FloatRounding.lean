import ColliderML.Proofs.Number.FloatDifference
import ColliderML.Tensor.Basic

/-!
# Rounding to a double, and a share of a count cut toward zero

A double rounds an exact mantissa `M` at an exponent `E` by shifting it right
to the target exponent, `shiftOf M E` places, and rounding the quotient to
nearest, ties to even (`roundedOf M E`); a carry to `2^53` is taken out one
exponent up (`roundWithAccuracy_exact`). The rounded mantissa is the quotient,
or one more when the bits dropped reach half a step (`roundedMantissa_exact`).
Read as rationals (`val`), rounding never passes a double that the exact value
does not pass (`val_roundedOf_le`), and a product of a double below one and a
normal double `N` rounds below `N` (`val_roundedOf_mul_lt`): the exact product
lies more than half a step of `N`'s grid below `N`.

A count becomes a double by one such rounding of an exact mantissa that stands
for it (`ofNat_toModel`), and a double in the form unpacking gives is packed
into bits that unpack to it again (`unpack_pack_finite`). So for a double `v`
strictly between zero and one, `v · n` cut toward zero is a number from zero
up, and below `n` when `n` is positive (`truncate_mul_ofNat_bounds`).
-/

namespace ColliderML

namespace FloatRounding

open Float.Model UnpackedFloat

/-! ## Shifting and rounding an exact mantissa -/

theorem shiftRight_succ (em : ExtendedMantissa) (s : Nat) :
    em >>> (s + 1) = ExtendedMantissa.shiftRightOne (em >>> s) := rfl

theorem shiftRight_exact (M s : Nat) :
    ((ExtendedMantissa.ofMantissaAndAccuracy M .exact >>> s).roundBit = true →
        2 ^ s ≤ 2 * (M % 2 ^ s)) ∧
      (M % 2 ^ s = 0 → (ExtendedMantissa.ofMantissaAndAccuracy M .exact >>> s).roundBit = false ∧
        (ExtendedMantissa.ofMantissaAndAccuracy M .exact >>> s).stickyBit = false) := by
  induction s with
  | zero => simp [HShiftRight.hShiftRight, Nat.repeat, ExtendedMantissa.ofMantissaAndAccuracy]
  | succ s ih =>
    obtain ⟨hround, hzero⟩ := ih
    -- the bit shifted out lies above the `s` bits already dropped
    have hsplit : M % 2 ^ (s + 1) = M % 2 ^ s + 2 ^ s * (M / 2 ^ s % 2) := by
      rw [Nat.pow_succ, Nat.mod_mul]
    rw [shiftRight_succ]
    simp only [ExtendedMantissa.shiftRightOne, FloatDifference.mantissa_shiftRight,
      FloatDifference.mantissa_ofMantissaAndAccuracy, bne_iff_ne, ne_eq]
    refine ⟨fun hbit => ?_, fun hmod => ?_⟩
    · have hone : M / 2 ^ s % 2 = 1 := by omega
      rw [hsplit, hone, Nat.pow_succ]
      omega
    · have hlow : M % 2 ^ s = 0 := by
        rw [hsplit] at hmod
        omega
      have hbit : M / 2 ^ s % 2 = 0 := by
        rw [hsplit, hlow, Nat.zero_add] at hmod
        rcases Nat.mul_eq_zero.1 hmod with h | h
        · exact absurd h (Nat.two_pow_pos s).ne'
        · exact h
      obtain ⟨hr, hst⟩ := hzero hlow
      simp [hbit, hr, hst]

theorem roundedMantissa_exact (M s : Nat) :
    M / 2 ^ s ≤ (ExtendedMantissa.ofMantissaAndAccuracy M .exact >>> s).roundedMantissa ∧
      ((ExtendedMantissa.ofMantissaAndAccuracy M .exact >>> s).roundedMantissa ≤ M / 2 ^ s ∨
        ((ExtendedMantissa.ofMantissaAndAccuracy M .exact >>> s).roundedMantissa = M / 2 ^ s + 1 ∧
          2 ^ s ≤ 2 * (M % 2 ^ s) ∧ M % 2 ^ s ≠ 0)) := by
  obtain ⟨hround, hzero⟩ := shiftRight_exact M s
  have hmant : (ExtendedMantissa.ofMantissaAndAccuracy M .exact >>> s).mantissa = M / 2 ^ s := by
    rw [FloatDifference.mantissa_shiftRight, FloatDifference.mantissa_ofMantissaAndAccuracy]
  generalize ExtendedMantissa.ofMantissaAndAccuracy M .exact >>> s = em at hmant hround hzero
  rcases em with ⟨m, r, st⟩
  simp only at hmant hround hzero
  subst hmant
  cases r <;> cases st <;>
    simp [ExtendedMantissa.roundedMantissa, ExtendedMantissa.accuracy, Accuracy.roundToNearestEven] at hround hzero ⊢
  all_goals omega

def shiftOf (M : Nat) (E : Int) : Nat := (Format.binary64.targetExponent (totalExponent M E) - E).toNat

def roundedOf (M : Nat) (E : Int) : Nat :=
  (ExtendedMantissa.ofMantissaAndAccuracy M .exact >>> shiftOf M E).roundedMantissa

theorem shiftOf_ge (M : Nat) (E : Int) :
    (M.log2 : Int) - 52 ≤ shiftOf M E ∧ -1074 ≤ E + shiftOf M E := by
  simp only [shiftOf, FloatDifference.targetExponent_binary64, totalExponent]
  omega

theorem div_shiftOf_lt (M : Nat) (E : Int) : M / 2 ^ shiftOf M E < 2 ^ 53 := by
  rcases Nat.eq_zero_or_pos M with rfl | hM
  · simp
  · rw [Nat.div_lt_iff_lt_mul (Nat.two_pow_pos _), ← Nat.pow_add]
    calc M < 2 ^ (M.log2 + 1) := Nat.lt_log2_self
      _ ≤ 2 ^ (53 + shiftOf M E) := Nat.pow_le_pow_right (by decide) (by have := (shiftOf_ge M E).1; omega)

theorem shiftOf_eq_zero {m : Nat} {e : Int} (hm : m < 2 ^ 53) (he : -1074 ≤ e) : shiftOf m e = 0 := by
  have hlog : m.log2 ≤ 52 := by
    rcases Nat.eq_zero_or_pos m with rfl | hpos
    · simp
    · have := (Nat.log2_lt (Nat.ne_of_gt hpos)).2 hm
      omega
  unfold shiftOf
  simp only [FloatDifference.targetExponent_binary64, totalExponent]
  omega

theorem roundedOf_of_shiftOf_eq_zero {M : Nat} {E : Int} (h : shiftOf M E = 0) : roundedOf M E = M := by
  obtain ⟨hq, hr⟩ := roundedMantissa_exact M (shiftOf M E)
  simp only [h, pow_zero, Nat.div_one, Nat.mod_one, ne_eq, not_true_eq_false, and_false, or_false] at hq hr
  unfold roundedOf
  rw [h]
  omega

theorem roundedOf_zero (E : Int) : roundedOf 0 E = 0 := by
  obtain ⟨-, hr⟩ := roundedMantissa_exact 0 (shiftOf 0 E)
  simp only [Nat.zero_div, Nat.zero_mod, ne_eq, not_true_eq_false, and_false, or_false, nonpos_iff_eq_zero] at hr
  exact hr

theorem add_shiftOf_of_pos {M : Nat} {E : Int} (h : 0 < shiftOf M E) :
    E + shiftOf M E = max ((M.log2 : Int) + E - 52) (-1074) := by
  unfold shiftOf at *
  simp only [FloatDifference.targetExponent_binary64, totalExponent] at *
  omega

theorem roundedOf_le_two_pow (M : Nat) (E : Int) : roundedOf M E ≤ 2 ^ 53 := by
  have hq := div_shiftOf_lt M E
  rcases (roundedMantissa_exact M (shiftOf M E)).2 with h | h
  · exact le_trans h (by omega)
  · rw [roundedOf, h.1]
    omega

theorem roundedOf_le_of_le_mul {M X : Nat} {E : Int} (h : M ≤ X * 2 ^ shiftOf M E) : roundedOf M E ≤ X := by
  have hA := Nat.two_pow_pos (shiftOf M E)
  have hdiv := Nat.div_add_mod' M (2 ^ shiftOf M E)
  have hqX : M / 2 ^ shiftOf M E ≤ X := Nat.div_le_of_le_mul (by rw [Nat.mul_comm]; exact h)
  rcases (roundedMantissa_exact M (shiftOf M E)).2 with hr | ⟨hr, -, hρ⟩
  · exact le_trans hr hqX
  · have hlt : M / 2 ^ shiftOf M E < X := by
      rcases Nat.lt_or_ge (M / 2 ^ shiftOf M E) X with hlt | hge
      · exact hlt
      · have := Nat.mul_le_mul_right (2 ^ shiftOf M E) hge
        omega
    exact le_of_eq_of_le hr hlt

theorem roundedOf_lt_of_lt {M K : Nat} {E : Int} (h : 2 * M + 2 ^ shiftOf M E < 2 * (K * 2 ^ shiftOf M E)) :
    roundedOf M E < K := by
  have hA := Nat.two_pow_pos (shiftOf M E)
  have hdiv := Nat.div_add_mod' M (2 ^ shiftOf M E)
  have hqK : M / 2 ^ shiftOf M E < K := (Nat.div_lt_iff_lt_mul hA).2 (by omega)
  rcases (roundedMantissa_exact M (shiftOf M E)).2 with hr | ⟨hr, hhalf, -⟩
  · exact lt_of_le_of_lt hr hqK
  · unfold roundedOf
    rw [hr]
    rcases Nat.lt_or_ge (M / 2 ^ shiftOf M E + 1) K with hlt | hge
    · exact hlt
    · have hup := Nat.mul_le_mul_right (2 ^ shiftOf M E) hge
      rw [Nat.add_mul, Nat.one_mul] at hup
      omega

theorem two_pow_le_roundedOf {M : Nat} (E : Int) (hM : 52 ≤ M.log2) :
    2 ^ 52 ≤ roundedOf M E ∨ E + shiftOf M E = -1074 := by
  have hM0 : 0 < M := Nat.pos_of_ne_zero fun h => by simp [h] at hM
  rcases le_or_gt (-1074) ((M.log2 : Int) + E - 52) with hnormal | hsub
  · have hshift : shiftOf M E = M.log2 - 52 := by
      unfold shiftOf
      simp only [FloatDifference.targetExponent_binary64, totalExponent]
      omega
    left
    calc 2 ^ 52 ≤ M / 2 ^ (M.log2 - 52) := (FloatDifference.div_two_pow_bounds hM0 hM).1
      _ = M / 2 ^ shiftOf M E := by rw [hshift]
      _ ≤ roundedOf M E := (roundedMantissa_exact M _).1
  · right
    unfold shiftOf
    simp only [FloatDifference.targetExponent_binary64, totalExponent]
    omega

theorem shiftToTargetExponent_small {m : Nat} {e : Int} (hm : m < 2 ^ 53) (he : -1074 ≤ e) :
    shiftToTargetExponent .binary64 m e .exact = (⟨m, false, false⟩, e) := by
  have hk : (Format.binary64.targetExponent (totalExponent m e) - e).toNat = 0 := shiftOf_eq_zero hm he
  simp [shiftToTargetExponent, shiftToExponent, hk, HShiftRight.hShiftRight, Nat.repeat,
    ExtendedMantissa.ofMantissaAndAccuracy]

theorem shiftToTargetExponent_carry {e : Int} (he : -1074 ≤ e) :
    shiftToTargetExponent .binary64 (2 ^ 53) e .exact = (⟨2 ^ 52, false, false⟩, e + 1) := by
  have hk : (Format.binary64.targetExponent (totalExponent (2 ^ 53) e) - e).toNat = 1 := by
    simp only [FloatDifference.targetExponent_binary64, totalExponent, Nat.log2_two_pow]
    omega
  simp only [shiftToTargetExponent, shiftToExponent, hk]
  rfl

theorem roundWithAccuracy_exact (sg : Sign) (M : Nat) (E : Int) :
    roundWithAccuracy .binary64 sg M E .exact =
      if h : roundedOf M E = 0 then .zero sg
      else if roundedOf M E < 2 ^ 53 then .finite sg (roundedOf M E) (E + shiftOf M E) (Nat.pos_of_ne_zero h)
      else .finite sg (2 ^ 52) (E + shiftOf M E + 1) (by decide) := by
  have hle := roundedOf_le_two_pow M E
  have he := (shiftOf_ge M E).2
  have hfirst : shiftToTargetExponent .binary64 M E .exact =
      (ExtendedMantissa.ofMantissaAndAccuracy M .exact >>> shiftOf M E, E + shiftOf M E) := rfl
  rw [roundWithAccuracy, hfirst]
  dsimp only
  rw [show (ExtendedMantissa.ofMantissaAndAccuracy M .exact >>> shiftOf M E).roundedMantissa = roundedOf M E from rfl]
  by_cases hsmall : roundedOf M E < 2 ^ 53
  · rw [shiftToTargetExponent_small hsmall he]
    simp only [hsmall, if_true]
  · have hcarry : roundedOf M E = 2 ^ 53 := by omega
    rw [hcarry, shiftToTargetExponent_carry he]
    simp

theorem roundWithAccuracy_small (sg : Sign) {m : Nat} {e : Int} (hm0 : 0 < m) (hm : m < 2 ^ 53)
    (he : -1074 ≤ e) : roundWithAccuracy .binary64 sg m e .exact = .finite sg m e hm0 := by
  have hs := shiftOf_eq_zero hm he
  have hr := roundedOf_of_shiftOf_eq_zero hs
  rw [roundWithAccuracy_exact]
  simp only [hr, hs, Nat.ne_of_gt hm0, hm, Nat.cast_zero, add_zero, dite_false, if_true]

/-! ## Packing -/

theorem unpackSign_packComponents {s : Sign} {e : BitVec 11} {m : BitVec 52} :
    @unpackSign .binary64 (packComponents .binary64 s e m) = s.toBitVec := by
  ext i hi
  obtain rfl : i = 0 := by omega
  simp only [unpackSign, packComponents]
  rw [BitVec.getElem_cast, BitVec.getElem_extract, BitVec.getLsbD_append, BitVec.getLsbD_append]
  cases s <;> simp [Sign.toBitVec]

theorem ofBitVec_toBitVec (s : Sign) : Sign.ofBitVec s.toBitVec = s := by
  cases s <;> rfl

theorem pack_normal {s : Sign} {m : Nat} {e : Int} {h : 0 < m} (hbig : 2 ^ 52 ≤ m) (hm : m < 2 ^ 53)
    (hlow : -1074 ≤ e) (he : e ≤ 971) :
    UnpackedFloat.pack .binary64 (.finite s m e h) =
      packComponents .binary64 s (BitVec.ofNat 11 (e + 1075).toNat) (BitVec.ofNat 52 m) := by
  have hlog : m.log2 = 52 := (Nat.log2_eq_iff (Nat.ne_of_gt h)).2 ⟨hbig, hm⟩
  have hbias : Format.binary64.exponentBias = 1023 := rfl
  have hbits : Format.binary64.mantissaBitsWithoutImplicit = 52 := rfl
  have hsize : Format.binary64.exponentBits = 11 := rfl
  have hmb : Format.binary64.mantissaBits = 53 := rfl
  unfold UnpackedFloat.pack
  rw [if_neg (by rw [hsize, hbias, hbits]; omega), if_pos (by rw [hmb, hlog])]
  congr 2
  rw [hbias, hbits]
  omega

theorem pack_subnormal {s : Sign} {m : Nat} {h : 0 < m} (hm : m < 2 ^ 52) :
    UnpackedFloat.pack .binary64 (.finite s m (-1074) h) = packComponents .binary64 s 0#11 (BitVec.ofNat 52 m) := by
  have hlog : m.log2 < 52 := (Nat.log2_lt (Nat.ne_of_gt h)).2 hm
  have hbias : Format.binary64.exponentBias = 1023 := rfl
  have hbits : Format.binary64.mantissaBitsWithoutImplicit = 52 := rfl
  have hsize : Format.binary64.exponentBits = 11 := rfl
  have hmb : Format.binary64.mantissaBits = 53 := rfl
  unfold UnpackedFloat.pack
  rw [if_neg (by rw [hsize, hbias, hbits]; omega), if_neg (by rw [hmb]; omega)]

theorem unpack_pack_normal {s : Sign} {m : Nat} {e : Int} {h : 0 < m} (hbig : 2 ^ 52 ≤ m) (hm : m < 2 ^ 53)
    (hlow : -1074 ≤ e) (he : e ≤ 971) :
    (Float.Model.pack (.finite s m e h)).unpack = .finite s m e h := by
  have hbias : Format.binary64.exponentBias = 1023 := rfl
  -- the biased exponent is neither zero nor all ones, and the leading bit is implicit
  have hval : (BitVec.ofNat 11 (e + 1075).toNat).toNat = (e + 1075).toNat := by
    rw [BitVec.toNat_ofNat, Nat.mod_eq_of_lt (by omega)]
  have hnot1 : BitVec.ofNat 11 (e + 1075).toNat ≠ -1#11 := by
    intro h1
    have := congrArg BitVec.toNat h1
    rw [hval] at this
    simp at this
    omega
  have hnot0 : BitVec.ofNat 11 (e + 1075).toNat ≠ 0#11 := by
    intro h0
    have := congrArg BitVec.toNat h0
    rw [hval] at this
    simp at this
    omega
  have hmant : (1#1 ++ BitVec.ofNat 52 m).toNat = m := by
    rw [BitVec.toNat_append]
    simp only [BitVec.toNat_ofNat]
    rw [← Nat.shiftLeft_add_eq_or_of_lt (Nat.mod_lt _ (Nat.two_pow_pos 52)), Nat.shiftLeft_eq]
    omega
  rw [FloatDifference.unpack_pack, pack_normal hbig hm hlow he]
  unfold UnpackedFloat.unpack
  simp only [unpackExponent_packComponents, unpackMantissa_packComponents,
    unpackSign_packComponents, ofBitVec_toBitVec, if_neg hnot1, if_neg hnot0, hmant, hval, hbias,
    UnpackedFloat.finite.injEq, true_and]
  omega

theorem unpack_pack_subnormal {s : Sign} {m : Nat} {h : 0 < m} (hm : m < 2 ^ 52) :
    (Float.Model.pack (.finite s m (-1074) h)).unpack = .finite s m (-1074) h := by
  have hbias : Format.binary64.exponentBias = 1023 := rfl
  have hmval : (BitVec.ofNat 52 m).toNat = m := by
    rw [BitVec.toNat_ofNat, Nat.mod_eq_of_lt hm]
  have hnz : BitVec.ofNat 52 m ≠ 0#52 := by
    intro h0
    have := congrArg BitVec.toNat h0
    rw [hmval] at this
    simp at this
    omega
  rw [FloatDifference.unpack_pack, pack_subnormal hm]
  unfold UnpackedFloat.unpack
  simp only [unpackExponent_packComponents, unpackMantissa_packComponents,
    unpackSign_packComponents, ofBitVec_toBitVec, hnz, hmval, hbias, dite_false]
  simp

theorem unpack_pack_finite {s : Sign} {m : Nat} {e : Int} {h : 0 < m}
    (hc : FloatDifference.Canonical (.finite s m e h)) (he : e ≤ 971) :
    (Float.Model.pack (.finite s m e h)).unpack = .finite s m e h := by
  obtain ⟨hm, hlow, hnorm⟩ := hc
  rcases Nat.lt_or_ge m (2 ^ 52) with hsmall | hbig
  · -- below `2^52` only at the least exponent: a subnormal double
    obtain rfl : e = -1074 := hnorm.resolve_left (by omega)
    exact unpack_pack_subnormal hsmall
  · exact unpack_pack_normal hbig hm hlow he

theorem unpack_pack_overflow {s : Sign} {m : Nat} {e : Int} {h : 0 < m} (he : 972 ≤ e) :
    (Float.Model.pack (.finite s m e h)).unpack = .infinity s := by
  have hbias : Format.binary64.exponentBias = 1023 := rfl
  have hbits : Format.binary64.mantissaBitsWithoutImplicit = 52 := rfl
  have hsize : Format.binary64.exponentBits = 11 := rfl
  rw [FloatDifference.unpack_pack]
  unfold UnpackedFloat.pack
  rw [if_pos (by rw [hsize, hbias, hbits]; omega)]
  exact FloatDifference.unpack_pack_infinity s

/-! ## Values -/

def val (m : Nat) (e : Int) : ℚ := m * 2 ^ e

theorem val_nonneg (m : Nat) (e : Int) : 0 ≤ val m e := by
  unfold val
  positivity

theorem val_shift (b : Nat) {E e : Int} (h : E ≤ e) : val b e = val (b * 2 ^ (e - E).toNat) E := by
  have hpow : (2 : ℚ) ^ e = 2 ^ (e - E).toNat * 2 ^ E := by
    rw [← zpow_natCast, ← zpow_add₀ (by norm_num : (2 : ℚ) ≠ 0)]
    congr 1
    omega
  simp only [val, Nat.cast_mul, Nat.cast_pow, Nat.cast_ofNat, hpow]
  ring

theorem val_le_val_iff {a b : Nat} {E e : Int} (h : E ≤ e) : val a E ≤ val b e ↔ a ≤ b * 2 ^ (e - E).toNat := by
  rw [val_shift b h, val, val, mul_le_mul_iff_left₀ (zpow_pos (by norm_num) E)]
  exact_mod_cast Iff.rfl

theorem val_lt_val_iff {a b : Nat} {E e : Int} (h : E ≤ e) : val a E < val b e ↔ a < b * 2 ^ (e - E).toNat := by
  rw [val_shift b h, val, val, mul_lt_mul_iff_left₀ (zpow_pos (by norm_num) E)]
  exact_mod_cast Iff.rfl

theorem val_lt_two_zpow {m : Nat} (hm : m < 2 ^ 53) (e : Int) : val m e < 2 ^ (e + 53) := by
  rw [zpow_add₀ (by norm_num : (2 : ℚ) ≠ 0), val, mul_comm]
  exact mul_lt_mul_of_pos_left (by exact_mod_cast hm) (zpow_pos (by norm_num) e)

theorem val_lt_two_zpow_log2 (M : Nat) (E : Int) : val M E < 2 ^ ((M.log2 : Int) + 1 + E) := by
  rw [zpow_add₀ (by norm_num : (2 : ℚ) ≠ 0), val]
  refine mul_lt_mul_of_pos_right ?_ (zpow_pos (by norm_num : (0 : ℚ) < 2) E)
  rw [show ((M.log2 : Int) + 1) = ((M.log2 + 1 : Nat) : Int) by push_cast; ring, zpow_natCast]
  exact_mod_cast Nat.lt_log2_self

theorem two_zpow_le_val {m : Nat} (hm : 0 < m) (e : Int) : (2 : ℚ) ^ ((m.log2 : Int) + e) ≤ val m e := by
  rw [zpow_add₀ (by norm_num : (2 : ℚ) ≠ 0), val, zpow_natCast]
  exact mul_le_mul_of_nonneg_right (by exact_mod_cast Nat.log2_self_le (Nat.ne_of_gt hm))
    (zpow_pos (by norm_num) e).le

theorem log2_lt_of_val_le {M m : Nat} (hM : 0 < M) (hm : m < 2 ^ 53) {E e : Int} (h : val M E ≤ val m e) :
    (M.log2 : Int) + E < e + 53 :=
  (zpow_lt_zpow_iff_right₀ (by norm_num : (1 : ℚ) < 2)).1
    (lt_of_le_of_lt (two_zpow_le_val hM E) (lt_of_le_of_lt h (val_lt_two_zpow hm e)))

theorem val_mul_two_pow (n k : Nat) : val (n * 2 ^ k) (-(k : Int)) = n := by
  simp only [val, Nat.cast_mul, Nat.cast_pow, Nat.cast_ofNat, zpow_neg, zpow_natCast]
  field_simp

/-! ## Rounding against a bound -/

theorem val_roundedOf_le {M mx : Nat} {E ex : Int} (hmx : mx < 2 ^ 53) (hex : -1074 ≤ ex)
    (h : val M E ≤ val mx ex) : val (roundedOf M E) (E + shiftOf M E) ≤ val mx ex := by
  rcases Nat.eq_zero_or_pos (shiftOf M E) with hs | hs
  · rw [hs, roundedOf_of_shiftOf_eq_zero hs, Nat.cast_zero, add_zero]
    exact h
  rcases Nat.eq_zero_or_pos M with rfl | hM
  · rw [roundedOf_zero, val, Nat.cast_zero, zero_mul]
    exact val_nonneg mx ex
  have hT := add_shiftOf_of_pos hs
  have hlog := log2_lt_of_val_le hM hmx h
  -- the double lies at or above the target exponent, so both meet on its grid
  have hTex : E + shiftOf M E ≤ ex := by omega
  rw [val_le_val_iff hTex]
  rw [val_le_val_iff (show E ≤ ex by omega)] at h
  have hsplit : mx * 2 ^ (ex - E).toNat = mx * 2 ^ (ex - (E + shiftOf M E)).toNat * 2 ^ shiftOf M E := by
    rw [Nat.mul_assoc, ← Nat.pow_add]
    congr 2
    omega
  rw [hsplit] at h
  exact roundedOf_le_of_le_mul h

/-- The product of a double below one, with a mantissa below `2^53` at an
exponent from `-53` down, and a normal double `N` rounds to a double below `N`:
the exact product lies more than half a step of `N`'s grid below it. -/
theorem val_roundedOf_mul_lt {mv mN : Nat} {ev eN : Int} (hmv : mv < 2 ^ 53) (hev : ev ≤ -53)
    (hmN : 2 ^ 52 ≤ mN) (hmN' : mN < 2 ^ 53) (heN : -1073 ≤ eN) :
    val (roundedOf (mv * mN) (ev + eN)) (ev + eN + shiftOf (mv * mN) (ev + eN)) < val mN eN := by
  have hpos : 0 < val mN eN := by
    unfold val
    exact mul_pos (by exact_mod_cast (show 0 < mN by omega)) (zpow_pos (by norm_num) eN)
  rcases Nat.eq_zero_or_pos (mv * mN) with hM | hM
  · rw [hM, roundedOf_zero, val, Nat.cast_zero, zero_mul]
    exact hpos
  generalize hMdef : mv * mN = M at hM
  generalize hk : (-ev).toNat = k
  have hk53 : 53 ≤ k := by omega
  -- the exact product is below `N` by at least `N / 2^53`
  have hbound : M * 2 ^ 53 ≤ (2 ^ 53 - 1) * (mN * 2 ^ k) := by
    rw [← hMdef, Nat.mul_assoc, Nat.mul_comm]
    calc mN * 2 ^ 53 * mv ≤ mN * 2 ^ k * (2 ^ 53 - 1) :=
          Nat.mul_le_mul (Nat.mul_le_mul_left _ (Nat.pow_le_pow_right (by decide) hk53)) (by omega)
      _ = (2 ^ 53 - 1) * (mN * 2 ^ k) := Nat.mul_comm _ _
  have hMlt : M < mN * 2 ^ k := by
    have : 0 < mN * 2 ^ k := Nat.mul_pos (by omega) (Nat.two_pow_pos k)
    omega
  have heE : eN - (ev + eN) = k := by omega
  rcases Nat.eq_zero_or_pos (shiftOf M (ev + eN)) with hs | hs
  · rw [hs, roundedOf_of_shiftOf_eq_zero hs, Nat.cast_zero, add_zero,
      val_lt_val_iff (show ev + eN ≤ eN by omega), heE]
    exact hMlt
  have hT := add_shiftOf_of_pos hs
  generalize hTdef : ev + eN + shiftOf M (ev + eN) = T at hT ⊢
  -- the product's leading bit sits no higher than `N`'s, and lower when `N` is a power of two
  have hlog : M.log2 < 53 + k := by
    rw [Nat.log2_lt (by omega), Nat.pow_add]
    exact lt_of_lt_of_le hMlt (Nat.mul_le_mul_right _ (by omega))
  have hTeN : T ≤ eN := by omega
  have hpow : mN = 2 ^ 52 → T < eN := by
    intro h52
    have : M.log2 < 52 + k := by
      rw [Nat.log2_lt (by omega), Nat.pow_add, ← h52]
      exact hMlt
    omega
  rw [val_lt_val_iff hTeN]
  have hsplit : mN * 2 ^ k = mN * 2 ^ (eN - T).toNat * 2 ^ shiftOf M (ev + eN) := by
    rw [Nat.mul_assoc, ← Nat.pow_add]
    congr 2
    omega
  have hK : 2 ^ 52 + 1 ≤ mN * 2 ^ (eN - T).toNat := by
    rcases lt_or_ge T eN with hlt | hge
    · calc 2 ^ 52 + 1 ≤ 2 ^ 52 * 2 ^ 1 := by norm_num
        _ ≤ mN * 2 ^ (eN - T).toNat := Nat.mul_le_mul hmN (Nat.pow_le_pow_right (by decide) (by omega))
    · have hTe : (eN - T).toNat = 0 := by omega
      have hne : mN ≠ 2 ^ 52 := fun h => absurd (hpow h) (by omega)
      rw [hTe, Nat.pow_zero, Nat.mul_one]
      omega
  rw [hsplit] at hbound
  -- the bound on the product leaves more than half a step of `N`'s grid below `N`
  have hstep := Nat.mul_le_mul_right (2 ^ shiftOf M (ev + eN)) hK
  exact roundedOf_lt_of_lt (by omega)

theorem roundWithAccuracy_cases (sg : Sign) {M : Nat} (E : Int) (hM : 52 ≤ M.log2) :
    roundWithAccuracy .binary64 sg M E .exact = .zero sg ∨
      ∃ m e h, roundWithAccuracy .binary64 sg M E .exact = .finite sg m e h ∧
        FloatDifference.Canonical (.finite sg m e h) ∧ E + shiftOf M E ≤ e ∧
        val m e = val (roundedOf M E) (E + shiftOf M E) := by
  have he := (shiftOf_ge M E).2
  rw [roundWithAccuracy_exact]
  by_cases h0 : roundedOf M E = 0
  · exact .inl (dif_pos h0)
  rw [dif_neg h0]
  right
  by_cases hsmall : roundedOf M E < 2 ^ 53
  · rw [if_pos hsmall]
    exact ⟨_, _, _, rfl, ⟨hsmall, he, two_pow_le_roundedOf E hM⟩, le_refl _, rfl⟩
  · rw [if_neg hsmall]
    -- a carry: half of `2^53` one exponent up
    have hcarry : roundedOf M E = 2 ^ 53 := by
      have := roundedOf_le_two_pow M E
      omega
    refine ⟨_, _, _, rfl, ⟨by norm_num, by omega, .inl le_rfl⟩, by omega, ?_⟩
    rw [hcarry, val_shift _ (show E + shiftOf M E ≤ E + shiftOf M E + 1 by omega),
      show (E + shiftOf M E + 1 - (E + shiftOf M E)).toNat = 1 by omega]
    norm_num

/-! ## Counts and shares as doubles -/

theorem ofNat_toModel {n : Nat} (hn : 0 < n) :
    ∃ M E, 52 ≤ M.log2 ∧ val M E = n ∧
      (Float.ofNat n).toModel = Float.Model.pack (roundWithAccuracy .binary64 .positive M E .exact) := by
  have hof : Float.ofNat n = Float.ofScientific n false 0 := rfl
  rw [hof]
  unfold Float.ofScientific
  by_cases hsmall : n < 2 ^ 53
  · rw [dif_pos ⟨hsmall, by decide⟩]
    simp only [Bool.false_eq_true, if_false]
    have hlog : n.log2 ≤ 52 := by
      have := (Nat.log2_lt (Nat.ne_of_gt hn)).2 hsmall
      omega
    -- the word's double: the count shifted up to 53 bits
    have hword : n.toUInt64.toNat = n := by
      rw [Nat.toUInt64_eq]
      exact UInt64.toNat_ofNat_of_lt' (lt_of_lt_of_le hsmall (by decide))
    have hbits : 2 ^ 52 ≤ n * 2 ^ (52 - n.log2) ∧ n * 2 ^ (52 - n.log2) < 2 ^ 53 := by
      constructor
      · calc 2 ^ 52 = 2 ^ n.log2 * 2 ^ (52 - n.log2) := by rw [← Nat.pow_add]; congr 1; omega
          _ ≤ n * 2 ^ (52 - n.log2) := Nat.mul_le_mul_right _ (Nat.log2_self_le (Nat.ne_of_gt hn))
      · calc n * 2 ^ (52 - n.log2) < 2 ^ (n.log2 + 1) * 2 ^ (52 - n.log2) :=
            Nat.mul_lt_mul_of_pos_right Nat.lt_log2_self (Nat.two_pow_pos _)
          _ = 2 ^ 53 := by rw [← Nat.pow_add]; congr 1; omega
    have hpos : 0 < n * 2 ^ (52 - n.log2) := by omega
    have hround : UnpackedFloat.normalize .binary64 (n.toUInt64.toNat : Int) 0 .positive =
        .finite .positive (n * 2 ^ (52 - n.log2)) (-((52 - n.log2 : Nat) : Int)) hpos := by
      have hcmp : compare (n : Int) 0 = .gt := compare_gt_iff_gt.2 (by omega)
      simp only [UnpackedFloat.normalize, hword, hcmp, UnpackedFloat.round, decreaseExponent,
        FloatDifference.targetExponent_binary64, totalExponent, Int.toNat_natCast]
      rw [show (0 - max ((n.log2 : Int) + 1 + 0 - 53) (-1074)).toNat = 52 - n.log2 by omega,
        Nat.shiftLeft_eq, show (0 : Int) - ((52 - n.log2 : Nat) : Int) = -((52 - n.log2 : Nat) : Int) by omega]
      exact roundWithAccuracy_small _ hpos hbits.2 (by omega)
    have hword' : n.toUInt64.toFloat.toModel.unpack =
        .finite .positive (n * 2 ^ (52 - n.log2)) (-((52 - n.log2 : Nat) : Int)) hpos := by
      show (Float.Model.pack (UnpackedFloat.normalize .binary64 (n.toUInt64.toNat : Int) 0 .positive)).unpack = _
      rw [hround]
      exact unpack_pack_finite ⟨hbits.2, by omega, .inl hbits.1⟩ (by omega)
    have hone : Float.exactlyRepresentablePowersOfTen[0].toModel.unpack =
        .finite .positive (2 ^ 52) (-52) (by decide) := rfl
    refine ⟨n * 2 ^ (52 - n.log2 + 52), -((52 - n.log2 + 52 : Nat) : Int), ?_, val_mul_two_pow _ _, ?_⟩
    · rw [Nat.le_log2 (by positivity)]
      exact le_trans (Nat.pow_le_pow_right (by decide) (by omega)) (Nat.le_mul_of_pos_left _ hn)
    · show Float.Model.pack (UnpackedFloat.mul .binary64 n.toUInt64.toFloat.toModel.unpack
        Float.exactlyRepresentablePowersOfTen[0].toModel.unpack) = _
      rw [hword', hone, Nat.pow_add, ← Nat.mul_assoc,
        show -((52 - n.log2 + 52 : Nat) : Int) = -((52 - n.log2 : Nat) : Int) + -52 by omega]
      rfl
  · rw [dif_neg (fun h => hsmall h.1)]
    refine ⟨n * 2 ^ 53, -((53 : Nat) : Int), ?_, val_mul_two_pow _ _, ?_⟩
    · rw [Nat.le_log2 (by positivity)]
      exact le_trans (Nat.pow_le_pow_right (by decide) (by omega)) (Nat.le_mul_of_pos_left _ hn)
    · -- the count shifted up 53 places, times `10^0`, at exponent `-53`
      show Float.Model.pack (UnpackedFloat.ofScientific .binary64 n _) = _
      simp only [UnpackedFloat.ofScientific, Nat.ne_of_gt hn, ↓reduceDIte, Bool.false_eq_true, ↓reduceIte,
        Int.ofNat_eq_natCast, CharP.cast_eq_zero, Int.reducePow, gt_iff_lt, Int.reduceLT, neg_add_rev,
        Int.reduceNeg, lt_add_neg_iff_add_lt, zero_add, Std.le_refl, UnpackedFloat.mul, Nat.shiftLeft_eq,
        Int.toNat_zero, pow_zero, mul_one, add_zero, Nat.reducePow, Nat.cast_ofNat]
      rw [if_neg (by omega)]
      rfl

theorem unpack_of_pos_of_lt_one {v : Float} (h0 : 0 < v) (h1 : v < 1) :
    ∃ m e h, v.toModel.unpack = .finite .positive m e h ∧ m < 2 ^ 53 ∧ -1074 ≤ e ∧ e ≤ -53 := by
  obtain ⟨hz, hv⟩ := FloatOrder.isNaN_eq_false_of_lt h0
  have h0' := (FloatOrder.lt_iff_rank_lt hz hv).1 h0
  have h1' := (FloatOrder.lt_iff_rank_lt hv (y := 1) rfl).1 h1
  have hc := FloatDifference.canonical_toModel_unpack v
  have hone : (1 : Float).toModel.unpack = .finite .positive (2 ^ 52) (-52) (by decide) := rfl
  have hzero : (0 : Float).toModel.unpack = .zero .positive := rfl
  unfold FloatOrder.rank at h0' h1'
  rw [hone] at h1'
  rw [hzero] at h0'
  generalize v.toModel.unpack = u at h0' h1' hc
  rcases u with ⟨_ | _⟩ | _ | ⟨_ | _⟩ | ⟨_ | _, m, e, hm⟩ <;>
    simp [FloatOrder.unpackedRank, Prod.Lex.toLex_lt_toLex] at h0' h1'
  obtain ⟨hm53, he, hnorm⟩ := hc
  exact ⟨m, e, hm, rfl, hm53, he, by omega⟩

theorem ofNat_unpack_cases {n : Nat} (hn : 0 < n) :
    (Float.ofNat n).toModel.unpack = .infinity .positive ∨
      ∃ mN eN h, (Float.ofNat n).toModel.unpack = .finite .positive mN eN h ∧
        2 ^ 52 ≤ mN ∧ mN < 2 ^ 53 ∧ -52 ≤ eN ∧ eN ≤ 971 ∧
        ∀ mx ex, mx < 2 ^ 53 → -1074 ≤ ex → (n : ℚ) ≤ val mx ex → val mN eN ≤ val mx ex := by
  obtain ⟨M, E, hlog, hval, hN⟩ := ofNat_toModel hn
  -- a count of at least one has its leading bit at an exponent from zero up
  have hlead : 0 ≤ (M.log2 : Int) + E := by
    have hone : (1 : ℚ) < 2 ^ ((M.log2 : Int) + 1 + E) :=
      lt_of_le_of_lt (by rw [hval]; exact_mod_cast hn) (val_lt_two_zpow_log2 M E)
    have := (one_lt_zpow_iff_right₀ (by norm_num : (1 : ℚ) < 2)).1 hone
    omega
  have hT := (shiftOf_ge M E).1
  rcases roundWithAccuracy_cases .positive E hlog with hW | ⟨mN, eN, hmN0, hW, hc, hTe, hvalN⟩
  · -- a zero would need a shift below the least exponent
    exfalso
    rw [roundWithAccuracy_exact] at hW
    have h0 : roundedOf M E = 0 := by
      by_contra h0
      rw [dif_neg h0] at hW
      split at hW <;> cases hW
    rcases two_pow_le_roundedOf E hlog with h | h <;> omega
  by_cases hover : 972 ≤ eN
  · left
    rw [hN, hW, unpack_pack_overflow hover]
  right
  obtain ⟨hmN, heN, hnorm⟩ := hc
  refine ⟨mN, eN, hmN0, ?_, by omega, hmN, by omega, by omega, ?_⟩
  · rw [hN, hW, unpack_pack_finite ⟨hmN, heN, hnorm⟩ (by omega)]
  · intro mx ex hmx hex hle
    rw [hvalN]
    exact val_roundedOf_le hmx hex (hval ▸ hle)

theorem mul_ofNat_unpack_cases {v : Float} (h0 : 0 < v) (h1 : v < 1) (n : Nat) :
    (v * Float.ofNat n).toModel.unpack = .infinity .positive ∨
      (v * Float.ofNat n).toModel.unpack = .zero .positive ∨
      ∃ m e h, (v * Float.ofNat n).toModel.unpack = .finite .positive m e h ∧ val m e < n := by
  obtain ⟨mv, ev, hmv0, hv, hmv, hev, hev'⟩ := unpack_of_pos_of_lt_one h0 h1
  have hprod : (v * Float.ofNat n).toModel.unpack =
      (Float.Model.pack (UnpackedFloat.mul .binary64 v.toModel.unpack (Float.ofNat n).toModel.unpack)).unpack :=
    rfl
  rcases Nat.eq_zero_or_pos n with rfl | hn
  · right; left
    rw [hprod, hv, show (Float.ofNat 0).toModel.unpack = .zero .positive from rfl]
    exact FloatDifference.unpack_pack_zero _
  rcases ofNat_unpack_cases hn with hN | ⟨mN, eN, hmN0, hN, hmN, hmN', heN, heN', hround⟩
  · left
    rw [hprod, hv, hN]
    exact FloatDifference.unpack_pack_infinity _
  have hmul : UnpackedFloat.mul .binary64 (.finite .positive mv ev hmv0) (.finite .positive mN eN hmN0) =
      roundWithAccuracy .binary64 .positive (mv * mN) (ev + eN) .exact := rfl
  have hlog : 52 ≤ (mv * mN).log2 := by
    rw [Nat.le_log2 (Nat.ne_of_gt (Nat.mul_pos hmv0 hmN0))]
    exact le_trans hmN (Nat.le_mul_of_pos_left _ hmv0)
  have hbelow := val_roundedOf_mul_lt hmv hev' hmN hmN' (show -1073 ≤ eN by omega)
  rcases roundWithAccuracy_cases .positive (ev + eN) hlog with hR | ⟨mR, eR, hmR0, hR, hc, -, hvalR⟩
  · right; left
    rw [hprod, hv, hN, hmul, hR]
    exact FloatDifference.unpack_pack_zero _
  right; right
  rw [← hvalR] at hbelow
  obtain ⟨hmR, heR, hnorm⟩ := hc
  -- below `N`, the product sits at `N`'s exponent or lower, clear of the overflow
  have heR' : eR ≤ 971 := by
    have hlt := log2_lt_of_val_le hmR0 hmN' hbelow.le
    rcases hnorm with hbig | hsub
    · have : 52 ≤ mR.log2 := (Nat.le_log2 (Nat.ne_of_gt hmR0)).2 hbig
      omega
    · omega
  refine ⟨mR, eR, hmR0, ?_, ?_⟩
  · rw [hprod, hv, hN, hmul, hR, unpack_pack_finite ⟨hmR, heR, hnorm⟩ heR']
  · -- reaching the count would bring `N` down to the product, yet the product lies below `N`
    by_contra hge
    have := hround mR eR hmR heR (not_lt.1 hge)
    exact absurd hbelow (not_lt.2 this)

/-! ## Cutting toward zero -/

theorem toNat_ofNatClamp_le (k : Nat) : (UInt64.ofNatClamp k).toNat ≤ k := by
  unfold UInt64.ofNatClamp
  split
  · simp
  · rename_i h
    simp only [UInt64.toNat_ofNatLT]
    omega

theorem roundToInt_positive_bounds (m : Nat) (e : Int) :
    0 ≤ roundToInt .positive m e ∧ (roundToInt .positive m e : ℚ) ≤ val m e := by
  unfold roundToInt decreaseExponent shiftToExponent
  simp only [Sign.apply, FloatDifference.mantissa_shiftRight, FloatDifference.mantissa_ofMantissaAndAccuracy,
    Nat.shiftLeft_eq]
  refine ⟨by positivity, ?_⟩
  rcases le_or_gt 0 e with he | he
  · -- a whole number: shifted up, nothing cut
    rw [show (0 - (e - ((e - 0).toNat : Int))).toNat = 0 by omega, pow_zero, Nat.div_one, val,
      show (e - 0).toNat = e.toNat by omega]
    push_cast
    rw [← zpow_natCast, Int.toNat_of_nonneg he]
  · -- a fraction: the bits below the point are cut
    rw [show (e - 0).toNat = 0 by omega, pow_zero, Nat.mul_one,
      show (0 - (e - ((0 : Nat) : Int))).toNat = (-e).toNat by omega, val]
    have hpow : (2 : ℚ) ^ e = ((2 ^ (-e).toNat : Nat) : ℚ)⁻¹ := by
      rw [Nat.cast_pow, Nat.cast_ofNat, ← zpow_natCast, Int.toNat_of_nonneg (by omega), zpow_neg, inv_inv]
    rw [hpow, ← div_eq_mul_inv]
    push_cast
    exact_mod_cast Nat.cast_div_le

variable {x : Float}

theorem truncate_of_not_lt_zero (hnan : x.toModel.unpack.isNaN = false) (hinf : x.toModel.unpack.isInf = false)
    (hneg : ¬ x < 0) : Scalar.truncate x = x.toUInt64.toNat := by
  have hnan' : x.isNaN = false := hnan
  have hinf' : x.isInf = false := hinf
  simp only [Scalar.truncate, hnan', hinf', hneg, Bool.or_false, Bool.false_eq_true, if_false]

theorem truncate_of_infinity {s : Sign} (hx : x.toModel.unpack = .infinity s) : Scalar.truncate x = 0 := by
  have hinf : x.isInf = true := by
    show x.toModel.unpack.isInf = true
    rw [hx]
    rfl
  simp [Scalar.truncate, hinf]

theorem truncate_of_zero {s : Sign} (hx : x.toModel.unpack = .zero s) : Scalar.truncate x = 0 := by
  have hneg : ¬ x < 0 := by
    rw [FloatOrder.lt_iff_unpacked, hx]
    cases s <;> decide
  have hword : x.toUInt64.toNat = 0 := by
    show (UInt64.ofNatClamp ((x.toModel.unpack.toInt 0 (2 ^ 64 - 1)).toNat)).toNat = 0
    rw [hx]
    rfl
  rw [truncate_of_not_lt_zero (by rw [hx]; rfl) (by rw [hx]; rfl) hneg, hword, Nat.cast_zero]

theorem truncate_of_finite_positive {m : Nat} {e : Int} {h : 0 < m}
    (hx : x.toModel.unpack = .finite .positive m e h) :
    0 ≤ Scalar.truncate x ∧ (Scalar.truncate x : ℚ) ≤ val m e := by
  have hneg : ¬ x < 0 := by
    rw [FloatOrder.lt_iff_unpacked, hx, show (0 : Float).toModel.unpack = .zero .positive from rfl]
    simp [UnpackedFloat.lt, UnpackedFloat.compare]
  have hword : x.toUInt64.toNat ≤ (roundToInt .positive m e).toNat := by
    show (UInt64.ofNatClamp ((x.toModel.unpack.toInt 0 (2 ^ 64 - 1)).toNat)).toNat ≤ _
    rw [hx]
    exact toNat_ofNatClamp_le _
  obtain ⟨hint0, hint⟩ := roundToInt_positive_bounds m e
  rw [truncate_of_not_lt_zero (by rw [hx]; rfl) (by rw [hx]; rfl) hneg]
  refine ⟨by positivity, le_trans ?_ hint⟩
  calc ((x.toUInt64.toNat : Int) : ℚ) ≤ (((roundToInt .positive m e).toNat : Int) : ℚ) := by
        exact_mod_cast hword
    _ = roundToInt .positive m e := by rw [Int.toNat_of_nonneg hint0]

theorem truncate_mul_ofNat_bounds {v : Float} (h0 : 0 < v) (h1 : v < 1) (n : Nat) :
    0 ≤ Scalar.truncate (v * Float.ofNat n) ∧ (0 < n → Scalar.truncate (v * Float.ofNat n) < n) := by
  rcases mul_ofNat_unpack_cases h0 h1 n with h | h | ⟨m, e, hm, h, hlt⟩
  · rw [truncate_of_infinity h]
    exact ⟨le_rfl, fun hn => by exact_mod_cast hn⟩
  · rw [truncate_of_zero h]
    exact ⟨le_rfl, fun hn => by exact_mod_cast hn⟩
  · obtain ⟨hpos, hle⟩ := truncate_of_finite_positive h
    exact ⟨hpos, fun _ => by exact_mod_cast hle.trans_lt hlt⟩

end FloatRounding

end ColliderML
