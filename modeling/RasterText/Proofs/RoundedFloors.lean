import Mathlib.Data.Nat.Log
import RasterText.Proofs.ExactDoubles

/-!
# Floors of rounded results

Doubles lie closer to each other below a power of two than above it.  A positive quotient
is rounded to `k` or more, for a whole number `k` that is not too large, exactly when it
is at most half a gap below `k`, the gap being the distance from `k` to the double before
it.  So the floor of a rounded product or quotient is known from the exact one: it is the
exact floor, or the next number where the exact result is nearly there (`IsNearFloor`).
-/

namespace RasterText

/-! ## Rounding at a place -/

theorem le_roundDiv_of_le {num den n : Nat} (hden : 0 < den) (h : n * den ≤ num) :
    n ≤ roundDiv num den := by
  have hfloor : n ≤ num / den := (Nat.le_div_iff_mul_le hden).2 h
  rcases roundDiv_eq_or num den with hdown | hup <;> omega

theorem roundDiv_le_of_le {num den n : Nat} (hden : 0 < den) (h : num ≤ n * den) :
    roundDiv num den ≤ n := by
  rcases Nat.lt_or_ge (num / den) n with hbelow | habove
  · rcases roundDiv_eq_or num den with hdown | hup <;> omega
  · have hwhole : num = den * n := by
      have := Nat.div_mul_le_self num den
      have := Nat.mul_le_mul_right den habove
      rw [Nat.mul_comm den n]
      omega
    rw [hwhole, roundDiv_mul_left n den hden]

/-- A tie goes to an even number, so from half a unit below on a quotient reaches it. -/
theorem le_roundDiv_iff_of_even {num den n : Nat} (hden : 0 < den) (heven : n % 2 = 0) :
    n ≤ roundDiv num den ↔ 2 * n * den ≤ 2 * num + den := by
  have heuclid := Nat.div_add_mod num den
  have hmod := Nat.mod_lt num hden
  have hexpand : 2 * n * den = 2 * (den * n) := by ring
  rw [hexpand]
  rcases Nat.lt_trichotomy n (num / den + 1) with hbelow | hnext | habove
  · have hfloor : den * n ≤ den * (num / den) := Nat.mul_le_mul_left den (by omega)
    have hreached := le_roundDiv_of_le hden (show n * den ≤ num by rw [Nat.mul_comm]; omega)
    exact iff_of_true hreached (by omega)
  · have hstep : den * n = den * (num / den) + den := by rw [hnext]; ring
    unfold roundDiv
    split <;> omega
  · have hstep : den * (num / den + 2) ≤ den * n := Nat.mul_le_mul_left den habove
    rw [Nat.mul_add] at hstep
    rcases roundDiv_eq_or num den with hdown | hup <;> omega

/-- The significand kept of a quotient when `place` is the last place. -/
def roundedAt (num den : Nat) (place : Int) : Nat :=
  roundDiv (num <<< (-place).toNat) (den <<< place.toNat)

theorem ratio_eq_shifted (num den : Nat) (place : Int) :
    (num / den : ℚ) =
      ((num <<< (-place).toNat : Nat) : ℚ) / ((den <<< place.toNat : Nat) : ℚ) * 2 ^ place := by
  have hratio := cast_shifted_ratio num den (-place)
  rw [neg_neg] at hratio
  rw [hratio, mul_assoc, ← zpow_add₀ two_ne_zero, neg_add_cancel, zpow_zero, mul_one]

section Place

variable {num den n : Nat} {place : Int}

theorem le_roundedAt_of_le (hden : 0 < den) (h : (n : ℚ) * 2 ^ place ≤ num / den) :
    n ≤ roundedAt num den place := by
  have hpos := shiftLeft_pos hden place.toNat
  rw [ratio_eq_shifted num den place] at h
  have hle := le_of_mul_le_mul_right h (by positivity)
  rw [le_div_iff₀ (by exact_mod_cast hpos)] at hle
  exact le_roundDiv_of_le hpos (by exact_mod_cast hle)

theorem roundedAt_le_of_le (hden : 0 < den) (h : (num / den : ℚ) ≤ n * 2 ^ place) :
    roundedAt num den place ≤ n := by
  have hpos := shiftLeft_pos hden place.toNat
  rw [ratio_eq_shifted num den place] at h
  have hle := le_of_mul_le_mul_right h (by positivity)
  rw [div_le_iff₀ (by exact_mod_cast hpos)] at hle
  exact roundDiv_le_of_le hpos (by exact_mod_cast hle)

theorem le_roundedAt_iff_of_even (hden : 0 < den) (heven : n % 2 = 0) :
    n ≤ roundedAt num den place ↔ (n : ℚ) * 2 ^ place - 2 ^ (place - 1) ≤ num / den := by
  have hpos := shiftLeft_pos hden place.toNat
  have hplace : (0 : ℚ) < 2 ^ place := by positivity
  have hhalf : (n : ℚ) * 2 ^ place - 2 ^ (place - 1) = (n - 1 / 2) * 2 ^ place := by
    rw [zpow_sub_one₀ two_ne_zero]
    ring
  rw [hhalf, ratio_eq_shifted num den place, mul_le_mul_iff_left₀ hplace,
    le_div_iff₀ (by exact_mod_cast hpos), roundedAt, le_roundDiv_iff_of_even hpos heven,
    ← Nat.cast_le (α := ℚ)]
  push_cast
  constructor <;> intro h <;> linarith

end Place

/-! ## Gaps between doubles -/

/-- Half the distance from a positive whole number to the double before it. -/
def halfGap (k : Nat) : ℚ :=
  2 ^ ((Nat.clog 2 k : Int) - 54)

/-- The least value that is rounded to `k` or more. -/
def reach (k : Nat) : ℚ :=
  k - halfGap k

theorem halfGap_pos (k : Nat) : 0 < halfGap k := by
  unfold halfGap
  positivity

theorem halfGap_mono {k l : Nat} (h : k ≤ l) : halfGap k ≤ halfGap l := by
  have hlog := Nat.clog_mono_right 2 h
  exact zpow_le_zpow_right₀ one_le_two (by omega)

theorem le_zpow_clog (k : Nat) : (k : ℚ) ≤ 2 ^ (Nat.clog 2 k : Int) := by
  rw [zpow_natCast]
  exact_mod_cast Nat.le_pow_clog one_lt_two k

theorem zpow_pred_clog_lt {k : Nat} (hk : 0 < k) : (2 : ℚ) ^ ((Nat.clog 2 k : Int) - 1) < k := by
  rcases Nat.lt_or_ge 1 k with hmore | hone
  · have hlog : ((Nat.clog 2 k : Int) - 1) = ((Nat.clog 2 k - 1 : Nat) : Int) := by
      have := Nat.clog_pos one_lt_two hmore
      omega
    rw [hlog, zpow_natCast]
    exact_mod_cast Nat.pow_pred_clog_lt_self one_lt_two hmore
  · obtain rfl : k = 1 := by omega
    norm_num

theorem halfGap_lt {k : Nat} (hk : 0 < k) : halfGap k < k * 2 ^ (-53 : Int) := by
  have hlog : halfGap k = 2 ^ ((Nat.clog 2 k : Int) - 1) * 2 ^ (-53 : Int) := by
    rw [halfGap, ← zpow_add₀ two_ne_zero]
    congr 1
    omega
  rw [hlog]
  exact mul_lt_mul_of_pos_right (zpow_pred_clog_lt hk) (by positivity)

theorem halfGap_le {k : Nat} (hsmall : k ≤ 2 ^ 52) : halfGap k ≤ 1 / 4 := by
  have hlog : Nat.clog 2 k ≤ 52 := Nat.clog_le_of_le_pow hsmall
  calc halfGap k ≤ 2 ^ (-2 : Int) := zpow_le_zpow_right₀ one_le_two (by omega)
    _ = 1 / 4 := by norm_num

theorem halfGap_succ (k : Nat) :
    halfGap (k + 1) = halfGap k ∨ ∃ j : Nat, k = 2 ^ j ∧ halfGap k = 2 ^ ((j : Int) - 54) ∧
      halfGap (k + 1) = 2 * halfGap k := by
  by_cases hpower : 2 ^ Nat.clog 2 k = k
  · right
    refine ⟨Nat.clog 2 k, hpower.symm, rfl, ?_⟩
    have hupper : Nat.clog 2 (k + 1) ≤ Nat.clog 2 k + 1 := by
      apply Nat.clog_le_of_le_pow
      rw [pow_succ, hpower]
      have := Nat.one_le_two_pow (n := Nat.clog 2 k)
      omega
    have hlower := (Nat.clog_lt_clog_succ_iff one_lt_two).2 hpower
    have hlog : (Nat.clog 2 (k + 1) : Int) - 54 = (Nat.clog 2 k : Int) - 54 + 1 := by omega
    rw [halfGap, halfGap, hlog, zpow_add_one₀ two_ne_zero, mul_comm]
  · left
    rw [halfGap, halfGap, (Nat.clog_eq_clog_succ_iff one_lt_two).2 hpower]

/-! ## When a rounded quotient reaches a whole number -/

theorem reach_lt (k : Nat) : reach k < k :=
  sub_lt_self _ (halfGap_pos k)

theorem reach_succ_le (k : Nat) : reach (k + 1) ≤ reach k + 1 := by
  have hgap := halfGap_mono k.le_succ
  rw [reach, reach, Nat.cast_succ]
  linarith

theorem mul_lt_reach {k : Nat} (hk : 0 < k) : (k : ℚ) * (1 - 2 ^ (-53 : Int)) < reach k := by
  have hgap := halfGap_lt hk
  rw [reach]
  linarith

/-- Nothing below the power of two before a whole number is rounded up to it. -/
theorem zpow_pred_clog_le_reach {k : Nat} (hk : 0 < k) (hsmall : k ≤ 2 ^ 52) :
    (2 : ℚ) ^ ((Nat.clog 2 k : Int) - 1) ≤ reach k := by
  have hgap := halfGap_le hsmall
  rcases Nat.lt_or_ge 1 k with hmore | hone
  · obtain ⟨c, hc⟩ := Nat.exists_eq_add_one.2 (Nat.clog_pos one_lt_two hmore)
    have hbelow : 2 ^ c + 1 ≤ k := by
      have := Nat.pow_pred_clog_lt_self one_lt_two hmore
      rwa [hc] at this
    have hcast : (2 : ℚ) ^ c + 1 ≤ k := by exact_mod_cast hbelow
    rw [hc, Nat.cast_succ, add_sub_cancel_right, zpow_natCast, reach]
    linarith
  · obtain rfl : k = 1 := by omega
    norm_num [reach, halfGap]

theorem reach_pos {k : Nat} (hk : 0 < k) (hsmall : k ≤ 2 ^ 52) : 0 < reach k :=
  lt_of_lt_of_le (by positivity) (zpow_pred_clog_le_reach hk hsmall)

namespace Binary64

theorem zpow_add_natCast (n : Nat) (exp : Int) :
    (2 : ℚ) ^ ((n : Int) + exp) = ((2 ^ n : Nat) : ℚ) * 2 ^ exp := by
  rw [zpow_add₀ two_ne_zero, zpow_natCast]
  norm_cast

theorem zpow_log2Ratio {num den : Nat} (h : lastPlace num den = log2Ratio num den - 52) :
    (2 : ℚ) ^ log2Ratio num den = ((2 ^ 52 : Nat) : ℚ) * 2 ^ lastPlace num den := by
  rw [← zpow_add_natCast, h]
  congr 1
  omega

theorem roundedAt_lastPlace_le {num den : Nat} (hnum : 0 < num) (hden : 0 < den) :
    roundedAt num den (lastPlace num den) ≤ 2 ^ 53 := by
  apply roundedAt_le_of_le hden
  rw [← zpow_add_natCast]
  calc (num / den : ℚ) ≤ 2 ^ (log2Ratio num den + 1) := (log2Ratio_spec hnum hden).2.le
    _ ≤ 2 ^ (((53 : Nat) : Int) + lastPlace num den) := by
        apply zpow_le_zpow_right₀ one_le_two
        unfold lastPlace
        omega

theorem le_roundedAt_lastPlace {num den : Nat} (hnum : 0 < num) (hden : 0 < den)
    (h : lastPlace num den = log2Ratio num den - 52) :
    2 ^ 52 ≤ roundedAt num den (lastPlace num den) := by
  apply le_roundedAt_of_le hden
  rw [← zpow_log2Ratio h]
  exact (log2Ratio_spec hnum hden).1

section Reaching

variable {num den k : Nat}

theorem le_rounded_iff_of_below (hnum : 0 < num) (hden : 0 < den) (hk : 0 < k)
    (hsmall : k ≤ 2 ^ 52) (hbelow : log2Ratio num den < (Nat.clog 2 k : Int) - 1) :
    (k : ℚ) ≤ roundedAt num den (lastPlace num den) * 2 ^ lastPlace num den ↔
      reach k ≤ num / den := by
  have hplace : lastPlace num den ≤ (Nat.clog 2 k : Int) - 1 := by
    unfold lastPlace
    omega
  have hless : (num / den : ℚ) < 2 ^ ((Nat.clog 2 k : Int) - 1) :=
    (log2Ratio_spec hnum hden).2.trans_le (zpow_le_zpow_right₀ one_le_two (by omega))
  have hgrid := two_pow_shift 1 hplace
  rw [Nat.cast_one, one_mul, one_mul] at hgrid
  have hrounded := roundedAt_le_of_le hden (hgrid ▸ hless.le)
  apply iff_of_false
  · rw [not_le]
    calc (roundedAt num den (lastPlace num den) : ℚ) * 2 ^ lastPlace num den
        ≤ 2 ^ ((Nat.clog 2 k : Int) - 1) := by
          rw [hgrid]
          gcongr
      _ < k := zpow_pred_clog_lt hk
  · rw [not_le]
    exact hless.trans_le (zpow_pred_clog_le_reach hk hsmall)

/-- In one binade with the quotient, a whole number is an even number of units of the last
place. -/
theorem le_rounded_iff_of_same (hden : 0 < den) (hsmall : k ≤ 2 ^ 52)
    (hsame : log2Ratio num den = (Nat.clog 2 k : Int) - 1) :
    (k : ℚ) ≤ roundedAt num den (lastPlace num den) * 2 ^ lastPlace num den ↔
      reach k ≤ num / den := by
  have hclog : Nat.clog 2 k ≤ 52 := Nat.clog_le_of_le_pow hsmall
  have hunit : (0 : ℚ) < 2 ^ lastPlace num den := by positivity
  have hplace : lastPlace num den = (Nat.clog 2 k : Int) - 53 := by
    unfold lastPlace
    omega
  obtain ⟨i, hi⟩ : ∃ i : Nat, (Nat.clog 2 k : Int) - 53 = -((i + 1 : Nat) : Int) :=
    ⟨52 - Nat.clog 2 k, by omega⟩
  have hunits : (k : ℚ) = ((k * 2 ^ (i + 1) : Nat) : ℚ) * 2 ^ lastPlace num den := by
    rw [hplace, hi, zpow_neg, zpow_natCast]
    push_cast
    field_simp
  have heven : k * 2 ^ (i + 1) % 2 = 0 := by
    rw [pow_succ, ← mul_assoc]
    exact Nat.mul_mod_left _ 2
  have hhalf : lastPlace num den - 1 = (Nat.clog 2 k : Int) - 54 := by omega
  have hkept : k * 2 ^ (i + 1) ≤ roundedAt num den (lastPlace num den) ↔ _ :=
    le_roundedAt_iff_of_even hden heven
  rw [← hunits, hhalf] at hkept
  rw [reach, halfGap, ← hkept]
  nth_rewrite 1 [hunits]
  rw [mul_le_mul_iff_left₀ hunit, Nat.cast_le]

theorem le_rounded_iff_of_beyond (hnum : 0 < num) (hden : 0 < den)
    (hbeyond : (Nat.clog 2 k : Int) - 1 < log2Ratio num den) :
    (k : ℚ) ≤ roundedAt num den (lastPlace num den) * 2 ^ lastPlace num den ↔
      reach k ≤ num / den := by
  have hplace : lastPlace num den = log2Ratio num den - 52 := by
    unfold lastPlace
    omega
  have hpower : (k : ℚ) ≤ 2 ^ log2Ratio num den :=
    (le_zpow_clog k).trans (zpow_le_zpow_right₀ one_le_two (by omega))
  apply iff_of_true
  · have hrounded := le_roundedAt_lastPlace hnum hden hplace
    calc (k : ℚ) ≤ 2 ^ log2Ratio num den := hpower
      _ = ((2 ^ 52 : Nat) : ℚ) * 2 ^ lastPlace num den := zpow_log2Ratio hplace
      _ ≤ roundedAt num den (lastPlace num den) * 2 ^ lastPlace num den := by gcongr
  · exact (reach_lt k).le.trans (hpower.trans (log2Ratio_spec hnum hden).1)

/-- A rounded quotient reaches a whole number when the exact one is at most half a gap
below it. -/
theorem le_rounded_iff (hnum : 0 < num) (hden : 0 < den) (hk : 0 < k) (hsmall : k ≤ 2 ^ 52) :
    (k : ℚ) ≤ roundedAt num den (lastPlace num den) * 2 ^ lastPlace num den ↔
      reach k ≤ num / den := by
  rcases lt_trichotomy (log2Ratio num den) ((Nat.clog 2 k : Int) - 1) with hbelow | hsame | hbeyond
  · exact le_rounded_iff_of_below hnum hden hk hsmall hbelow
  · exact le_rounded_iff_of_same hden hsmall hsame
  · exact le_rounded_iff_of_beyond hnum hden hbeyond

end Reaching

theorem HasValue.le_floorClamped_iff {a : Binary64} {q : ℚ} (h : a.HasValue q) {k limit : Nat}
    (hk : 0 < k) (hlimit : k ≤ limit) : k ≤ a.floorClamped limit ↔ (k : ℚ) ≤ q := by
  rw [h.floorClamped, le_min_iff, and_iff_left hlimit, Nat.le_floor_iff' hk.ne']

theorem le_floorClamped_ofRounded_iff {mant k limit : Nat} {exp : Int} (hmant : mant ≤ 2 ^ 53)
    (hexp : -1074 ≤ exp) (hfull : 2 ^ 52 ≤ mant ∨ exp = -1074) (hk : 0 < k)
    (hsmall : k ≤ 2 ^ 52) (hlimit : k ≤ limit) :
    k ≤ (ofRounded false mant exp).floorClamped limit ↔ (k : ℚ) ≤ mant * 2 ^ exp := by
  unfold ofRounded
  split
  · rename_i hzero
    have hpos : (0 : ℚ) < k := by exact_mod_cast hk
    rw [floorClamped_zero, hzero, Nat.cast_zero, zero_mul]
    exact iff_of_false hk.not_ge hpos.not_ge
  · split
    · rename_i kept
      exact HasValue.le_floorClamped_iff ⟨_, _, kept, rfl, rfl⟩ hk hlimit
    · split
      · rename_i carried
        apply HasValue.le_floorClamped_iff ⟨_, _, carried.2, rfl, ?_⟩ hk hlimit
        rw [carried.1, zpow_add_one₀ two_ne_zero]
        push_cast
        ring
      · -- What overflows has an exponent near the greatest one.
        rename_i hkept hcarried
        have hlarge : 971 ≤ exp := by
          by_contra hless
          rcases Nat.lt_or_ge mant (2 ^ 53) with hshort | hlong
          · exact hkept ⟨hshort, hexp, by omega, hfull⟩
          · exact hcarried ⟨by omega, by omega, by omega, by omega, .inl (by omega)⟩
        have hmore : k ≤ mant := by omega
        have hscale : (1 : ℚ) ≤ 2 ^ exp := one_le_zpow₀ one_le_two (by omega)
        apply iff_of_true
        · exact hlimit
        · calc (k : ℚ) ≤ mant := by exact_mod_cast hmore
            _ ≤ mant * 2 ^ exp := le_mul_of_one_le_right (Nat.cast_nonneg mant) hscale

/-- The floor of a rounded quotient, by the whole numbers that it reaches. -/
theorem le_floorClamped_ofRatio_iff {num den k limit : Nat} (hden : 0 < den)
    (hsmall : k ≤ 2 ^ 52) (hlimit : k ≤ limit) :
    k ≤ (ofRatio false num den).floorClamped limit ↔ reach k ≤ num / den := by
  rcases Nat.eq_zero_or_pos k with rfl | hk
  · have hnegative := reach_lt 0
    rw [Nat.cast_zero] at hnegative
    exact iff_of_true (Nat.zero_le _) (hnegative.le.trans (by positivity))
  rcases Nat.eq_zero_or_pos num with rfl | hnum
  · rw [ofRatio_zero_left, floorClamped_zero, Nat.cast_zero, zero_div]
    exact iff_of_false hk.not_ge (reach_pos hk hsmall).not_ge
  · have hfull : 2 ^ 52 ≤ roundedAt num den (lastPlace num den) ∨ lastPlace num den = -1074 := by
      by_cases hplace : lastPlace num den = log2Ratio num den - 52
      · exact .inl (le_roundedAt_lastPlace hnum hden hplace)
      · right
        unfold lastPlace at hplace ⊢
        omega
    have hleast : -1074 ≤ lastPlace num den := le_max_right _ _
    have hfloor := le_floorClamped_ofRounded_iff (roundedAt_lastPlace_le hnum hden) hleast hfull
      hk hsmall hlimit
    exact hfloor.trans (le_rounded_iff hnum hden hk hsmall)

section Operations

variable {a b : Binary64} {p q : ℚ} {k limit : Nat}

theorem HasValue.le_floorClamped_mul_iff (ha : a.HasValue p) (hb : b.HasValue q)
    (hsmall : k ≤ 2 ^ 52) (hlimit : k ≤ limit) :
    k ≤ (a * b).floorClamped limit ↔ reach k ≤ p * q := by
  obtain ⟨num, den, hden, hproduct, hvalue⟩ := ha.exists_mul_eq_ofRatio hb
  rw [hproduct, ← hvalue]
  exact le_floorClamped_ofRatio_iff hden hsmall hlimit

theorem HasValue.le_floorClamped_div_iff (ha : a.HasValue p) (hb : b.HasValue q) (hq : q ≠ 0)
    (hsmall : k ≤ 2 ^ 52) (hlimit : k ≤ limit) :
    k ≤ (a / b).floorClamped limit ↔ reach k ≤ p / q := by
  obtain ⟨num, den, hden, hquotient, hvalue⟩ := ha.exists_div_eq_ofRatio hb hq
  rw [hquotient, ← hvalue]
  exact le_floorClamped_ofRatio_iff hden hsmall hlimit

end Operations

/-! ## Multiples of a number from one on -/

/-- A double from one on is a whole number of the units that doubles below two have. -/
theorem HasValue.exists_units {a : Binary64} {v : ℚ} (h : a.HasValue v) (hone : 1 ≤ v) :
    ∃ units : Nat, v = units * 2 ^ (-52 : Int) := by
  obtain ⟨mant, exp, hcanonical, -, rfl⟩ := h
  have hexp : -52 ≤ exp := by
    by_contra hless
    have hmant : (mant : ℚ) < 2 ^ (53 : Int) := by exact_mod_cast hcanonical.short
    have hsmall : (mant : ℚ) * 2 ^ exp < 1 := by
      calc (mant : ℚ) * 2 ^ exp < 2 ^ (53 : Int) * 2 ^ exp := by gcongr
        _ = 2 ^ (53 + exp) := (zpow_add₀ two_ne_zero _ _).symm
        _ ≤ 1 := zpow_le_one_of_nonpos₀ one_le_two (by omega)
    linarith
  exact ⟨_, two_pow_shift mant hexp⟩

/-- So its multiples by a power of two are not close to a whole number without meeting it. -/
theorem HasValue.le_mul_sub {a : Binary64} {v : ℚ} (h : a.HasValue v) (hone : 1 ≤ v) {j x : Nat}
    (hj : j ≤ 52) (hx : (x : ℚ) < 2 ^ j * v) : (2 : ℚ) ^ ((j : Int) - 52) ≤ 2 ^ j * v - x := by
  obtain ⟨units, hunits⟩ := h.exists_units hone
  have hpower : (2 : ℚ) ^ j * 2 ^ (-52 : Int) = 2 ^ ((j : Int) - 52) := by
    rw [← zpow_natCast, ← zpow_add₀ two_ne_zero, sub_eq_add_neg]
  have hwhole : (2 : ℚ) ^ (52 - j) * 2 ^ ((j : Int) - 52) = 1 := by
    rw [← zpow_natCast, ← zpow_add₀ two_ne_zero, Nat.cast_sub hj]
    norm_num
  have hmultiple : 2 ^ j * v - x =
      ((units - x * 2 ^ (52 - j) : Int) : ℚ) * 2 ^ ((j : Int) - 52) := by
    push_cast
    rw [sub_mul, mul_assoc (x : ℚ), hwhole, mul_one, ← hpower, hunits]
    ring
  have hpos : (0 : ℚ) < 2 ^ ((j : Int) - 52) := by positivity
  have hless : (0 : ℚ) < ((units - x * 2 ^ (52 - j) : Int) : ℚ) := by
    apply (mul_pos_iff_of_pos_right hpos).1
    rw [← hmultiple]
    linarith
  have hleast : (1 : Int) ≤ units - x * 2 ^ (52 - j) := by exact_mod_cast hless
  rw [hmultiple]
  exact le_mul_of_one_le_left hpos.le (by exact_mod_cast hleast)

end Binary64

/-! ## Near floors -/

/-- A whole number that a rounded result, cut at `limit`, may have as its floor: the floor of
the exact result, or the next number, and that one only where the exact result is nearly
there. -/
structure IsNearFloor (exact : ℚ) (limit n : Nat) : Prop where
  either : n = min ⌊exact⌋₊ limit ∨ n = min (⌊exact⌋₊ + 1) limit
  least : min ⌊exact⌋₊ limit ≤ n
  close : n ≠ min ⌊exact⌋₊ limit →
    (⌊exact⌋₊ + 1 : ℚ) - exact ≤ (⌊exact⌋₊ + 1) * 2 ^ (-53 : Int)

theorem isNearFloor_of_reach {exact : ℚ} {limit n : Nat} (hexact : 0 ≤ exact)
    (hlimit : limit ≤ 2 ^ 52) (hn : n ≤ limit)
    (h : ∀ k ≤ limit, k ≤ n ↔ reach k ≤ exact) : IsNearFloor exact limit n := by
  have hreach := (h n hn).1 (Nat.le_refl n)
  have hleast : min ⌊exact⌋₊ limit ≤ n := by
    rw [h _ (Nat.min_le_right ..)]
    calc reach (min ⌊exact⌋₊ limit) ≤ (min ⌊exact⌋₊ limit : Nat) := (reach_lt _).le
      _ ≤ ⌊exact⌋₊ := by exact_mod_cast Nat.min_le_left ..
      _ ≤ exact := Nat.floor_le hexact
  -- Half a gap is at most a quarter, so no more than one whole number is gained.
  have hmost : n < ⌊exact⌋₊ + 2 := by
    have hgap := halfGap_le (hn.trans hlimit)
    have hnext := Nat.lt_floor_add_one exact
    have hless : (n : ℚ) < ⌊exact⌋₊ + 2 := by
      rw [reach] at hreach
      linarith
    exact_mod_cast hless
  refine ⟨by omega, hleast, ?_⟩
  intro hne
  obtain rfl : n = ⌊exact⌋₊ + 1 := by omega
  have hless := (mul_lt_reach ⌊exact⌋₊.succ_pos).trans_le hreach
  push_cast at hless
  linarith

theorem IsNearFloor.min_lower {exact : ℚ} {limit lower n : Nat} (h : IsNearFloor exact limit n)
    (hlower : lower ≤ limit) : IsNearFloor exact lower (min n lower) := by
  have heither := h.either
  refine ⟨by omega, by omega, ?_⟩
  intro hne
  exact h.close (by omega)

end RasterText
