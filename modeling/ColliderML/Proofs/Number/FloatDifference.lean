import ColliderML.Proofs.Number.FloatOrder

/-!
# When a difference of doubles is zero

For doubles other than NaN, `y - x` is zero exactly when `y == x` and `x` is a
number (`FloatDifference.sub_beq_zero`): equal infinities differ by NaN, and a
non-zero exact difference never rounds to zero. The last fact rests on the
form unpacking gives a finite double, a mantissa below `2^53` at an exponent
from `-1074` up (`Canonical`): rounding such a difference keeps a positive
mantissa below `2^53` (`round_bounds`), and such a mantissa is not packed into
the bits of a zero (`unpack_pack_finite_ne_zero`). Equality of doubles other
than NaN is an equivalence, and `==` against an infinity holds only of it.
-/

namespace ColliderML

namespace FloatDifference

open FloatOrder Float.Model UnpackedFloat

/-! ## Canonical unpacked doubles -/

/-- The form unpacking gives a finite double: a mantissa below `2^53` at an
exponent from `-1074` up, below `2^52` only at that least exponent. -/
def Canonical : UnpackedFloat → Prop
  | .finite _ m e _ => m < 2 ^ 53 ∧ -1074 ≤ e ∧ (2 ^ 52 ≤ m ∨ e = -1074)
  | _ => True

theorem canonical_unpack (b : BitVec Format.binary64.numBits) : Canonical (UnpackedFloat.unpack .binary64 b) := by
  have hbias : Format.binary64.exponentBias = 1023 := rfl
  have hm : (@unpackMantissa .binary64 b).toNat < 2 ^ 52 := (unpackMantissa b).isLt
  unfold UnpackedFloat.unpack
  simp only [hbias]
  split
  · split <;> trivial
  · split
    · split
      · trivial
      · rename_i hzero _
        rw [hzero]
        exact ⟨by omega, by simp, .inr (by simp)⟩
    · rename_i hzero
      have he : (@unpackExponent .binary64 b).toNat ≠ 0 := by
        rw [Ne, ← BitVec.toNat_zero (w := 11), BitVec.toNat_inj]
        exact hzero
      -- a normal double: the implicit bit above the stored mantissa
      have hmant : (1#1 ++ @unpackMantissa .binary64 b).toNat = 2 ^ 52 + (unpackMantissa b).toNat := by
        rw [BitVec.toNat_append, ← Nat.shiftLeft_add_eq_or_of_lt hm, Nat.shiftLeft_eq]
        rfl
      exact ⟨by rw [hmant]; omega, by omega, .inl (by rw [hmant]; omega)⟩

/-! ## Rounding a positive mantissa -/

theorem mantissa_shiftRight (k : Nat) (em : ExtendedMantissa) : (em >>> k).mantissa = em.mantissa / 2 ^ k := by
  induction k generalizing em with
  | zero => simp [HShiftRight.hShiftRight, Nat.repeat]
  | succ k ih =>
    show (ExtendedMantissa.shiftRightOne (em >>> k)).mantissa = _
    rw [ExtendedMantissa.shiftRightOne, ih, Nat.div_div_eq_div_mul, Nat.pow_succ]

theorem mantissa_ofMantissaAndAccuracy (m : Nat) (a : Accuracy) :
    (ExtendedMantissa.ofMantissaAndAccuracy m a).mantissa = m := by
  rcases a with _ | (_ | _ | _) <;> rfl

theorem le_roundToNearestEven (m : Nat) (a : Accuracy) : m ≤ a.roundToNearestEven m := by
  rcases a with _ | (_ | _ | _) <;> simp [Accuracy.roundToNearestEven]

theorem targetExponent_binary64 (t : Int) : Format.binary64.targetExponent t = max (t - 53) (-1074) := rfl

theorem div_two_pow_bounds {M : Nat} (hM : 0 < M) (hlong : 52 ≤ M.log2) :
    2 ^ 52 ≤ M / 2 ^ (M.log2 - 52) ∧ M / 2 ^ (M.log2 - 52) < 2 ^ 53 := by
  constructor
  · rw [Nat.le_div_iff_mul_le (Nat.two_pow_pos _), ← Nat.pow_add]
    calc 2 ^ (52 + (M.log2 - 52)) = 2 ^ M.log2 := by congr 1; omega
      _ ≤ M := Nat.log2_self_le (Nat.ne_of_gt hM)
  · rw [Nat.div_lt_iff_lt_mul (Nat.two_pow_pos _), ← Nat.pow_add]
    calc M < 2 ^ (M.log2 + 1) := Nat.lt_log2_self
      _ = 2 ^ (53 + (M.log2 - 52)) := by congr 1; omega

theorem shift_bounds {M : Nat} (hM : 0 < M) {E : Int} (hE : -1074 ≤ E) :
    0 < M / 2 ^ (Format.binary64.targetExponent (totalExponent M E) - E).toNat ∧
      M / 2 ^ (Format.binary64.targetExponent (totalExponent M E) - E).toNat < 2 ^ 53 := by
  rw [targetExponent_binary64, totalExponent]
  rcases Nat.lt_or_ge M.log2 52 with hshort | hlong
  · -- a mantissa of at most 52 bits is not shifted
    have hk : (max ((M.log2 : Int) + 1 + E - 53) (-1074) - E).toNat = 0 := by omega
    have hlt : M < 2 ^ 53 :=
      calc M < 2 ^ (M.log2 + 1) := Nat.lt_log2_self
        _ ≤ 2 ^ 53 := Nat.pow_le_pow_right (by decide) (by omega)
    rw [hk, Nat.pow_zero, Nat.div_one]
    exact ⟨hM, hlt⟩
  · have hk : (max ((M.log2 : Int) + 1 + E - 53) (-1074) - E).toNat = M.log2 - 52 := by omega
    obtain ⟨hlow, hhigh⟩ := div_two_pow_bounds hM hlong
    rw [hk]
    exact ⟨Nat.lt_of_lt_of_le (Nat.two_pow_pos 52) hlow, hhigh⟩

theorem roundWithAccuracy_bounds (s : Sign) {M : Nat} (hM : 0 < M) {E : Int} (hE : -1074 ≤ E)
    (a : Accuracy) :
    ∃ m e h, roundWithAccuracy .binary64 s M E a = .finite s m e h ∧ m < 2 ^ 53 ∧ -1074 ≤ e := by
  unfold roundWithAccuracy shiftToTargetExponent shiftToExponent
  simp only [mantissa_shiftRight, mantissa_ofMantissaAndAccuracy]
  generalize hk : (Format.binary64.targetExponent (totalExponent M E) - E).toNat = k
  -- the first shift keeps the mantissa positive, and rounding never lowers it
  have hround : 0 < ((ExtendedMantissa.ofMantissaAndAccuracy M a) >>> k).roundedMantissa := by
    rw [ExtendedMantissa.roundedMantissa, mantissa_shiftRight, mantissa_ofMantissaAndAccuracy, ← hk]
    exact Nat.lt_of_lt_of_le (shift_bounds hM hE).1 (le_roundToNearestEven _ _)
  -- the second shift, from an exponent no lower, brings it below `2^53`
  obtain ⟨hpos, hlt⟩ := shift_bounds hround (E := E + k) (by omega)
  rw [dif_neg (Nat.pos_iff_ne_zero.1 hpos)]
  exact ⟨_, _, hpos, rfl, hlt, by omega⟩

theorem round_bounds (s : Sign) {M : Nat} (hM : 0 < M) {E : Int} (hE : -1074 ≤ E) :
    ∃ m e h, UnpackedFloat.round .binary64 s M E = .finite s m e h ∧ m < 2 ^ 53 ∧ -1074 ≤ e := by
  unfold UnpackedFloat.round decreaseExponent
  apply roundWithAccuracy_bounds
  · exact Nat.shiftLeft_pos_iff.2 hM
  · rw [targetExponent_binary64]
    omega

/-! ## Packing -/

theorem unpack_pack (u : UnpackedFloat) :
    (Float.Model.pack u).unpack = UnpackedFloat.unpack .binary64 (UnpackedFloat.pack .binary64 u) := rfl

theorem fields_of_unpack_eq_zero {b : BitVec Format.binary64.numBits} {s : Sign}
    (h : UnpackedFloat.unpack .binary64 b = .zero s) :
    @unpackExponent .binary64 b = 0#11 ∧ @unpackMantissa .binary64 b = 0#52 := by
  unfold UnpackedFloat.unpack at h
  simp only at h
  split at h
  · split at h <;> cases h
  · split at h
    · split at h
      · exact ⟨by assumption, by assumption⟩
      · cases h
    · cases h

theorem unpack_pack_finite_ne_zero (s s' : Sign) {m : Nat} {e : Int} (h : 0 < m) (hm : m < 2 ^ 53)
    (he : -1074 ≤ e) : (Float.Model.pack (.finite s m e h)).unpack ≠ .zero s' := by
  intro hz
  obtain ⟨hexp, hmant⟩ := fields_of_unpack_eq_zero (by rw [← unpack_pack]; exact hz)
  unfold UnpackedFloat.pack at hexp hmant
  simp only at hexp hmant
  split at hexp
  · -- too large: the exponent field of an infinity is all ones
    simp only [packedInfinity, unpackExponent_packComponents] at hexp
    exact absurd hexp (by decide)
  · rename_i hover
    have hbias : Format.binary64.exponentBias = 1023 := rfl
    split at hexp
    · -- normal: the biased exponent is neither zero nor all ones
      simp only [unpackExponent_packComponents] at hexp
      have hval := congrArg BitVec.toNat hexp
      rw [hbias] at hover hval
      simp only [BitVec.toNat_ofNat] at hval
      change ¬ 2 ^ 11 ≤ _ at hover
      omega
    · -- subnormal: the mantissa is stored as it is, below `2^52`
      rename_i hbits
      rw [if_neg hover, if_neg hbits] at hmant
      simp only [unpackMantissa_packComponents] at hmant
      have hval := congrArg BitVec.toNat hmant
      simp only [BitVec.toNat_ofNat] at hval
      change ¬ m.log2 + 1 = 53 at hbits
      have hlog : m.log2 < 53 := (Nat.log2_lt (by omega)).2 hm
      have hsmall : m < 2 ^ 52 := (Nat.log2_lt (by omega)).1 (by omega)
      change m % 2 ^ 52 = 0 at hval
      rw [Nat.mod_eq_of_lt hsmall] at hval
      omega

/-! ## Differences -/

theorem compare_zero_eq_some_eq {u : UnpackedFloat} {s' : Sign} :
    u.compare (.zero s') = some .eq ↔ ∃ s, u = .zero s := by
  rcases u with ⟨_ | _⟩ | _ | ⟨_ | _⟩ | ⟨_ | _, m, e, h⟩ <;> simp [UnpackedFloat.compare]

theorem compare_finite_eq_some_eq {s₁ s₂ : Sign} {m₁ m₂ : Nat} {e₁ e₂ : Int} {h₁ : 0 < m₁} {h₂ : 0 < m₂} :
    (UnpackedFloat.finite s₁ m₁ e₁ h₁).compare (.finite s₂ m₂ e₂ h₂) = some .eq ↔
      s₁ = s₂ ∧ e₁ = e₂ ∧ m₁ = m₂ := by
  rcases s₁ with _ | _ <;> rcases s₂ with _ | _ <;>
    simp [UnpackedFloat.compare, Ordering.then_eq_eq, Ordering.swap_eq_eq]

theorem apply_sub_apply_eq_zero {s₁ s₂ : Sign} {a b : Nat} (ha : 0 < a) (hb : 0 < b) :
    s₁.apply a - s₂.apply b = 0 ↔ s₁ = s₂ ∧ a = b := by
  rcases s₁ with _ | _ <;> rcases s₂ with _ | _ <;> simp [Sign.apply] <;> omega

theorem lt_shiftLeft {a b d : Nat} (hd : 0 < d) (ha : a < 2 ^ 53) (hb : 2 ^ 52 ≤ b) : a < b <<< d := by
  rw [Nat.shiftLeft_eq]
  calc a < 2 ^ 52 * 2 := by omega
    _ ≤ b * 2 ^ d := Nat.mul_le_mul hb (Nat.le_self_pow (Nat.ne_of_gt hd) 2)

theorem shifted_eq_iff {s₁ s₂ : Sign} {m₁ m₂ : Nat} {e₁ e₂ : Int} {h₁ : 0 < m₁} {h₂ : 0 < m₂}
    (hc₁ : Canonical (.finite s₁ m₁ e₁ h₁)) (hc₂ : Canonical (.finite s₂ m₂ e₂ h₂)) :
    m₁ <<< (e₁ - min e₁ e₂).toNat = m₂ <<< (e₂ - min e₁ e₂).toNat ↔ e₁ = e₂ ∧ m₁ = m₂ := by
  obtain ⟨hm₁, he₁, hn₁⟩ := hc₁
  obtain ⟨hm₂, he₂, hn₂⟩ := hc₂
  constructor
  · intro heq
    rcases lt_trichotomy e₁ e₂ with hlt | rfl | hgt
    · -- the larger exponent belongs to a normal mantissa, which the shift takes past `2^53`
      rw [min_eq_left hlt.le, sub_self, Int.toNat_zero, Nat.shiftLeft_zero] at heq
      have hnorm : 2 ^ 52 ≤ m₂ := hn₂.resolve_right (by omega)
      exact absurd heq (Nat.ne_of_lt (lt_shiftLeft (by omega) hm₁ hnorm))
    · simpa using heq
    · rw [min_eq_right hgt.le, sub_self, Int.toNat_zero, Nat.shiftLeft_zero] at heq
      have hnorm : 2 ^ 52 ≤ m₁ := hn₁.resolve_right (by omega)
      exact absurd heq.symm (Nat.ne_of_lt (lt_shiftLeft (by omega) hm₂ hnorm))
  · rintro ⟨rfl, rfl⟩
    rfl

theorem pack_round_ne_zero (s s' : Sign) {M : Nat} (hM : 0 < M) {E : Int} (hE : -1074 ≤ E) :
    (Float.Model.pack (UnpackedFloat.round .binary64 s M E)).unpack ≠ .zero s' := by
  obtain ⟨m, e, h, hround, hm, he⟩ := round_bounds s hM hE
  rw [hround]
  exact unpack_pack_finite_ne_zero s s' h hm he

theorem sub_finite_eq_zero_iff {s₁ s₂ : Sign} {m₁ m₂ : Nat} {e₁ e₂ : Int} {h₁ : 0 < m₁} {h₂ : 0 < m₂}
    (hc₁ : Canonical (.finite s₁ m₁ e₁ h₁)) (hc₂ : Canonical (.finite s₂ m₂ e₂ h₂)) :
    (∃ s, (Float.Model.pack (UnpackedFloat.sub .binary64 (.finite s₁ m₁ e₁ h₁) (.finite s₂ m₂ e₂ h₂))).unpack =
      .zero s) ↔ s₁ = s₂ ∧ e₁ = e₂ ∧ m₁ = m₂ := by
  have hE : -1074 ≤ min e₁ e₂ := le_min hc₁.2.1 hc₂.2.1
  have hexact : s₁.apply (m₁ <<< (e₁ - min e₁ e₂).toNat) - s₂.apply (m₂ <<< (e₂ - min e₁ e₂).toNat) = 0 ↔
      s₁ = s₂ ∧ e₁ = e₂ ∧ m₁ = m₂ := by
    rw [apply_sub_apply_eq_zero (Nat.shiftLeft_pos_iff.2 h₁) (Nat.shiftLeft_pos_iff.2 h₂), shifted_eq_iff hc₁ hc₂]
  rw [← hexact]
  simp only [UnpackedFloat.sub, decreaseExponent]
  generalize s₁.apply _ - s₂.apply _ = M
  unfold UnpackedFloat.normalize
  split
  · rename_i hc
    have hneg := Int.compare_eq_lt.mp hc
    exact ⟨fun ⟨s, hs⟩ => absurd hs (pack_round_ne_zero _ s (by omega) hE), fun h => by omega⟩
  · rename_i hc
    exact ⟨fun _ => Int.compare_eq_eq.mp hc, fun _ => ⟨.positive, rfl⟩⟩
  · rename_i hc
    have hpos := Int.compare_eq_gt.mp hc
    exact ⟨fun ⟨s, hs⟩ => absurd hs (pack_round_ne_zero _ s (by omega) hE), fun h => by omega⟩

@[simp] theorem unpack_pack_infinity (s : Sign) : (Float.Model.pack (.infinity s)).unpack = .infinity s := by
  cases s <;> rfl

@[simp] theorem unpack_pack_zero (s : Sign) : (Float.Model.pack (.zero s)).unpack = .zero s := by
  cases s <;> rfl

@[simp] theorem unpack_pack_notANumber : (Float.Model.pack .notANumber).unpack = .notANumber := rfl

theorem pack_finite_ne_zero {s : Sign} {m : Nat} {e : Int} {h : 0 < m} (hc : Canonical (.finite s m e h)) :
    ¬ ∃ s', (Float.Model.pack (.finite s m e h)).unpack = .zero s' :=
  fun ⟨s', hs⟩ => unpack_pack_finite_ne_zero s s' h hc.1 hc.2.1 hs

theorem sub_eq_zero_iff {u v : UnpackedFloat} (hu : Canonical u) (hv : Canonical v)
    (hun : u.isNaN = false) (hvn : v.isNaN = false) :
    (∃ s, (Float.Model.pack (UnpackedFloat.sub .binary64 u v)).unpack = .zero s) ↔
      u.compare v = some .eq ∧ v.isInf = false := by
  rcases u with s₁ | _ | s₁ | ⟨s₁, m₁, e₁, h₁⟩
  · -- an infinity minus anything is an infinity or NaN
    rcases v with s₂ | _ | s₂ | ⟨s₂, m₂, e₂, h₂⟩
    · simp only [UnpackedFloat.sub]
      split <;> simp [UnpackedFloat.isInf]
    · cases hvn
    · rcases s₁ with _ | _ <;> simp [UnpackedFloat.sub, UnpackedFloat.compare]
    · rcases s₁ with _ | _ <;> simp [UnpackedFloat.sub, UnpackedFloat.compare]
  · cases hun
  · rcases v with s₂ | _ | s₂ | ⟨s₂, m₂, e₂, h₂⟩
    · simp [UnpackedFloat.sub, UnpackedFloat.isInf]
    · cases hvn
    · simp only [UnpackedFloat.sub]
      split <;> simp [UnpackedFloat.compare, UnpackedFloat.isInf]
    · -- zero minus a finite double is that double negated
      have hsub : UnpackedFloat.sub .binary64 (.zero s₁) (.finite s₂ m₂ e₂ h₂) = .finite (-s₂) m₂ e₂ h₂ := rfl
      rw [hsub]
      refine ⟨fun hz => absurd hz (pack_finite_ne_zero (s := -s₂) hv), fun h => ?_⟩
      obtain ⟨hc, -⟩ := h
      rcases s₂ with _ | _ <;> simp [UnpackedFloat.compare] at hc
  · rcases v with s₂ | _ | s₂ | ⟨s₂, m₂, e₂, h₂⟩
    · simp [UnpackedFloat.sub, UnpackedFloat.isInf]
    · cases hvn
    · have hsub : UnpackedFloat.sub .binary64 (.finite s₁ m₁ e₁ h₁) (.zero s₂) = .finite s₁ m₁ e₁ h₁ := rfl
      rw [hsub]
      refine ⟨fun hz => absurd hz (pack_finite_ne_zero hu), fun h => ?_⟩
      obtain ⟨_, hzero⟩ := compare_zero_eq_some_eq.1 h.1
      cases hzero
    · rw [sub_finite_eq_zero_iff hu hv, compare_finite_eq_some_eq]
      simp [UnpackedFloat.isInf]

theorem canonical_toModel_unpack (x : Float) : Canonical x.toModel.unpack :=
  canonical_unpack x.toModel.toBits.toBitVec

theorem sub_beq_zero {x y : Float} (hx : x.isNaN = false) (hy : y.isNaN = false) :
    (y - x == 0) = ((y == x) && !x.isInf) := by
  have key := sub_eq_zero_iff (canonical_toModel_unpack y) (canonical_toModel_unpack x) hy hx
  apply Bool.eq_iff_iff.2
  show ((Float.Model.pack (UnpackedFloat.sub .binary64 y.toModel.unpack x.toModel.unpack)).unpack.compare
      (.zero .positive) == some .eq) = true ↔
    ((y.toModel.unpack.compare x.toModel.unpack == some .eq) && !x.toModel.unpack.isInf) = true
  simp only [beq_iff_eq, compare_zero_eq_some_eq, key, Bool.and_eq_true, Bool.not_eq_true']

/-! ## Equality of doubles -/

variable {x y z : Float}

theorem isNaN_eq_false_of_beq (h : (x == y) = true) : x.isNaN = false ∧ y.isNaN = false := by
  have hc : (x.toModel.unpack.compare y.toModel.unpack == some .eq) = true := h
  constructor
  · cases hx : x.isNaN
    · rfl
    · rw [eq_notANumber_of_isNaN hx, compare_notANumber_left] at hc
      cases hc
  · cases hy : y.isNaN
    · rfl
    · rw [eq_notANumber_of_isNaN hy, compare_notANumber_right] at hc
      cases hc

theorem beq_self (hx : x.isNaN = false) : (x == x) = true := (beq_iff_rank_eq hx hx).2 rfl

theorem beq_symm (h : (x == y) = true) : (y == x) = true := by
  obtain ⟨hx, hy⟩ := isNaN_eq_false_of_beq h
  exact (beq_iff_rank_eq hy hx).2 ((beq_iff_rank_eq hx hy).1 h).symm

theorem beq_eq_false_comm (h : (x == y) = false) : (y == x) = false := by
  cases hyx : (y == x)
  · rfl
  · rw [beq_symm hyx] at h
    cases h

theorem beq_trans (hxy : (x == y) = true) (hyz : (y == z) = true) : (x == z) = true := by
  obtain ⟨hx, hy⟩ := isNaN_eq_false_of_beq hxy
  have hz := (isNaN_eq_false_of_beq hyz).2
  exact (beq_iff_rank_eq hx hz).2 (((beq_iff_rank_eq hx hy).1 hxy).trans ((beq_iff_rank_eq hy hz).1 hyz))

theorem lt_of_le_of_beq_eq_false (hle : y ≤ x) (hne : (y == x) = false) : y < x := by
  obtain ⟨hy, hx⟩ := isNaN_eq_false_of_le hle
  rw [le_iff_rank_le hy hx] at hle
  rw [lt_iff_rank_lt hy hx]
  refine lt_of_le_of_ne hle fun heq => ?_
  rw [(beq_iff_rank_eq hy hx).2 heq] at hne
  cases hne

theorem beq_eq_false_of_lt (h : y < x) : (x == y) = false := by
  obtain ⟨hy, hx⟩ := isNaN_eq_false_of_lt h
  rw [lt_iff_rank_lt hy hx] at h
  cases hxy : x == y
  · rfl
  · exact absurd ((beq_iff_rank_eq hx hy).1 hxy) (ne_of_gt h)

theorem le_trans (hxy : x ≤ y) (hyz : y ≤ z) : x ≤ z := by
  obtain ⟨hx, hy⟩ := isNaN_eq_false_of_le hxy
  have hz := (isNaN_eq_false_of_le hyz).2
  rw [le_iff_rank_le hx hy] at hxy
  rw [le_iff_rank_le hy hz] at hyz
  exact (le_iff_rank_le hx hz).2 (hxy.trans hyz)

theorem le_total (hx : x.isNaN = false) (hy : y.isNaN = false) : x ≤ y ∨ y ≤ x := by
  rw [le_iff_rank_le hx hy, le_iff_rank_le hy hx]
  exact LinearOrder.le_total _ _

theorem isInf_of_beq (h : (y == x) = true) (hx : x.isInf = true) : y.isInf = true := by
  have hc : (y.toModel.unpack.compare x.toModel.unpack == some .eq) = true := h
  have hxu : x.toModel.unpack.isInf = true := hx
  show y.toModel.unpack.isInf = true
  generalize x.toModel.unpack = u at hc hxu
  generalize y.toModel.unpack = w at hc
  cases u with
  | infinity s =>
    rcases w with t | _ | t | ⟨t, m, e, hm⟩
    · rfl
    · simp [UnpackedFloat.compare] at hc
    · rcases s with _ | _ <;> simp [UnpackedFloat.compare] at hc
    · rcases s with _ | _ <;> rcases t with _ | _ <;> simp [UnpackedFloat.compare] at hc
  | _ => cases hxu

end FloatDifference

end ColliderML
