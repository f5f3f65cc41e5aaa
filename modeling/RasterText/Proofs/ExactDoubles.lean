import Mathlib.Algebra.Order.Field.Power
import Mathlib.Algebra.Order.Floor.Semifield
import Mathlib.Data.Rat.Floor
import Mathlib.Tactic.FieldSimp
import Mathlib.Tactic.Linarith
import Mathlib.Tactic.NormNum
import Mathlib.Tactic.Positivity
import Mathlib.Tactic.Ring
import RasterText.Binary64.Arithmetic

/-!
# Exact results

A quotient that a double can hold is rounded to itself: the last place kept of it lies
at or below the last place that it needs.  So small whole numbers are exact, and so are
products and quotients whose value a double can hold.
-/

namespace RasterText

/-! ## Moving the binary point -/

theorem cast_shiftLeft (n k : Nat) : ((n <<< k : Nat) : ℚ) = n * 2 ^ k := by
  rw [Nat.shiftLeft_eq]
  push_cast
  rfl

theorem cast_shifted_ratio (num den : Nat) (exp : Int) :
    ((num <<< exp.toNat : Nat) : ℚ) / ((den <<< (-exp).toNat : Nat) : ℚ) =
      num / den * 2 ^ exp := by
  rw [cast_shiftLeft, cast_shiftLeft]
  obtain ⟨k, rfl | rfl⟩ := exp.eq_nat_or_neg
  · rw [Int.toNat_natCast, Int.toNat_neg_natCast, pow_zero, mul_one, zpow_natCast,
      mul_div_right_comm]
  · rw [Int.toNat_neg_natCast, neg_neg, Int.toNat_natCast, pow_zero, mul_one, zpow_neg,
      zpow_natCast, div_mul_eq_div_div, div_eq_mul_inv (_ / _)]

theorem shiftLeft_pos {n : Nat} (h : 0 < n) (k : Nat) : 0 < n <<< k := by
  rw [Nat.shiftLeft_eq]
  positivity

theorem zpow_log2_le {n : Nat} (h : 0 < n) : (2 : ℚ) ^ (n.log2 : Int) ≤ n := by
  rw [zpow_natCast]
  exact_mod_cast Nat.log2_self_le h.ne'

theorem lt_zpow_log2_add_one (n : Nat) : (n : ℚ) < 2 ^ ((n.log2 : Int) + 1) := by
  have h : n < 2 ^ (n.log2 + 1) := Nat.lt_log2_self
  exact_mod_cast h

theorem shifted_lt_iff {num den : Nat} (hden : 0 < den) (exp : Int) :
    num <<< (-exp).toNat < den <<< exp.toNat ↔ (num / den : ℚ) < 2 ^ exp := by
  have hratio := cast_shifted_ratio num den (-exp)
  have hpos : (0 : ℚ) < ((den <<< exp.toNat : Nat) : ℚ) := by
    exact_mod_cast shiftLeft_pos hden exp.toNat
  have hpow : (0 : ℚ) < 2 ^ exp := by positivity
  rw [neg_neg, zpow_neg, ← div_eq_mul_inv] at hratio
  rw [← Nat.cast_lt (α := ℚ), ← div_lt_one hpos, hratio, div_lt_one hpow]

theorem log2Ratio_spec {num den : Nat} (hnum : 0 < num) (hden : 0 < den) :
    (2 : ℚ) ^ log2Ratio num den ≤ num / den ∧
      (num / den : ℚ) < 2 ^ (log2Ratio num den + 1) := by
  have hpos : (0 : ℚ) < den := by exact_mod_cast hden
  have hlow : (2 : ℚ) ^ ((num.log2 : Int) - den.log2 - 1) ≤ num / den := by
    rw [le_div_iff₀ hpos]
    calc (2 : ℚ) ^ ((num.log2 : Int) - den.log2 - 1) * den
        ≤ 2 ^ ((num.log2 : Int) - den.log2 - 1) * 2 ^ ((den.log2 : Int) + 1) := by
          have := (lt_zpow_log2_add_one den).le
          gcongr
      _ = 2 ^ (num.log2 : Int) := by
          rw [← zpow_add₀ two_ne_zero]
          congr 1
          ring
      _ ≤ num := zpow_log2_le hnum
  have hhigh : (num / den : ℚ) < 2 ^ ((num.log2 : Int) - den.log2 + 1) := by
    rw [div_lt_iff₀ hpos]
    calc (num : ℚ) < 2 ^ ((num.log2 : Int) + 1) := lt_zpow_log2_add_one num
      _ = 2 ^ ((num.log2 : Int) - den.log2 + 1) * 2 ^ (den.log2 : Int) := by
          rw [← zpow_add₀ two_ne_zero]
          congr 1
          ring
      _ ≤ 2 ^ ((num.log2 : Int) - den.log2 + 1) * den := by
          have := zpow_log2_le hden
          gcongr
  unfold log2Ratio
  by_cases hbelow : (num / den : ℚ) < 2 ^ ((num.log2 : Int) - den.log2)
  · rw [if_pos ((shifted_lt_iff hden _).2 hbelow), sub_add_cancel]
    exact ⟨hlow, hbelow⟩
  · rw [if_neg (fun h => hbelow ((shifted_lt_iff hden _).1 h))]
    exact ⟨not_lt.1 hbelow, hhigh⟩

/-! ## Values -/

namespace Binary64

def HasValue (a : Binary64) (value : ℚ) : Prop :=
  ∃ mant exp canonical, a = .finite false mant exp canonical ∧ (mant : ℚ) * 2 ^ exp = value

/-- Some double has the given value. -/
def Representable (value : ℚ) : Prop :=
  ∃ (mant : Nat) (exp : Int), mant < 2 ^ 53 ∧ -1074 ≤ exp ∧ exp ≤ 971 ∧
    (mant : ℚ) * 2 ^ exp = value

theorem representable_natCast {n : Nat} (h : n < 2 ^ 53) : Representable n :=
  ⟨n, 0, h, by decide, by decide, by simp⟩

theorem hasValue_zero : HasValue (zero false) 0 :=
  ⟨0, -1074, _, rfl, by simp⟩

theorem HasValue.unique {a : Binary64} {p q : ℚ} (ha : a.HasValue p) (hb : a.HasValue q) :
    p = q := by
  obtain ⟨m, e, _, rfl, rfl⟩ := ha
  obtain ⟨n, f, _, hsame, rfl⟩ := hb
  obtain ⟨-, rfl, rfl⟩ := Binary64.finite.inj hsame
  rfl

theorem lastPlace_le {num den mant : Nat} {exp : Int} (hnum : 0 < num) (hden : 0 < den)
    (hmant : mant < 2 ^ 53) (hexp : -1074 ≤ exp) (hvalue : (mant : ℚ) * 2 ^ exp = num / den) :
    lastPlace num den ≤ exp := by
  by_contra hlt
  have hplace : exp + 1 ≤ log2Ratio num den - 52 := by
    unfold lastPlace at hlt
    omega
  have htoo : (2 : ℚ) ^ (exp + 53) ≤ mant * 2 ^ exp := by
    rw [hvalue]
    exact (zpow_le_zpow_right₀ one_le_two (by omega)).trans (log2Ratio_spec hnum hden).1
  rw [zpow_add₀ two_ne_zero, mul_comm] at htoo
  have hle : (2 : ℚ) ^ (53 : Int) ≤ mant := le_of_mul_le_mul_right htoo (by positivity)
  have : 2 ^ 53 ≤ mant := by exact_mod_cast hle
  omega

theorem two_pow_shift (mant : Nat) {exp place : Int} (h : place ≤ exp) :
    (mant : ℚ) * 2 ^ exp = ((mant * 2 ^ (exp - place).toNat : Nat) : ℚ) * 2 ^ place := by
  push_cast
  rw [← zpow_natCast, Int.toNat_of_nonneg (by omega), mul_assoc, ← zpow_add₀ two_ne_zero,
    sub_add_cancel]

theorem roundDiv_of_exact {num den kept : Nat} {place : Int} (hden : 0 < den)
    (h : (kept : ℚ) * 2 ^ place = num / den) :
    roundDiv (num <<< (-place).toNat) (den <<< place.toNat) = kept := by
  have hpos := shiftLeft_pos hden place.toNat
  have hratio := cast_shifted_ratio num den (-place)
  rw [neg_neg, ← h, mul_assoc, ← zpow_add₀ two_ne_zero, add_neg_cancel, zpow_zero, mul_one,
    div_eq_iff (by exact_mod_cast hpos.ne')] at hratio
  have hwhole : num <<< (-place).toNat = den <<< place.toNat * kept := by
    rw [mul_comm]
    exact_mod_cast hratio
  rw [hwhole, roundDiv_mul_left _ _ hpos]

theorem isCanonical_of_exact {num den kept : Nat} (hnum : 0 < num) (hden : 0 < den)
    (h : (kept : ℚ) * 2 ^ lastPlace num den = num / den) (hmost : lastPlace num den ≤ 971) :
    IsCanonical kept (lastPlace num den) := by
  obtain ⟨hlow, hhigh⟩ := log2Ratio_spec hnum hden
  have hpos : (0 : ℚ) < 2 ^ lastPlace num den := by positivity
  refine ⟨?_, by unfold lastPlace; omega, hmost, ?_⟩
  · have hlt : (kept : ℚ) * 2 ^ lastPlace num den < 2 ^ (53 : Int) * 2 ^ lastPlace num den := by
      rw [h, ← zpow_add₀ two_ne_zero]
      refine hhigh.trans_le (zpow_le_zpow_right₀ one_le_two ?_)
      unfold lastPlace
      omega
    have := lt_of_mul_lt_mul_right hlt hpos.le
    exact_mod_cast this
  · by_cases hplace : lastPlace num den = -1074
    · exact .inr hplace
    · left
      have hle : (2 : ℚ) ^ (52 : Int) * 2 ^ lastPlace num den ≤ kept * 2 ^ lastPlace num den := by
        rw [h, ← zpow_add₀ two_ne_zero]
        refine (zpow_le_zpow_right₀ one_le_two ?_).trans hlow
        unfold lastPlace at hplace ⊢
        omega
      have := le_of_mul_le_mul_right hle hpos
      exact_mod_cast this

theorem hasValue_ofRatio {num den : Nat} (hden : 0 < den)
    (h : Representable (num / den)) : HasValue (ofRatio false num den) (num / den) := by
  rcases Nat.eq_zero_or_pos num with rfl | hnum
  · rw [ofRatio_zero_left, Nat.cast_zero, zero_div]
    exact hasValue_zero
  · obtain ⟨mant, exp, hmant, hleast, hmost, hvalue⟩ := h
    have hplace := lastPlace_le hnum hden hmant hleast hvalue
    rw [two_pow_shift mant hplace] at hvalue
    have hkept := roundDiv_of_exact hden hvalue
    have hcanonical := isCanonical_of_exact hnum hden hvalue (hplace.trans hmost)
    have hne : mant * 2 ^ (exp - lastPlace num den).toNat ≠ 0 := by
      intro hzero
      rw [hzero, Nat.cast_zero, zero_mul, eq_comm, div_eq_zero_iff] at hvalue
      simp [hnum.ne', hden.ne'] at hvalue
    refine ⟨_, _, hcanonical, ?_, hvalue⟩
    simp only [ofRatio, ofRounded]
    rw [hkept, if_neg hne, dif_pos hcanonical]

theorem hasValue_ofNat {n : Nat} (h : n < 2 ^ 53) : HasValue (ofNat n) n := by
  have hrepresentable : Representable ((n : ℚ) / (1 : Nat)) := by
    rw [Nat.cast_one, div_one]
    exact representable_natCast h
  have hvalue := hasValue_ofRatio Nat.one_pos hrepresentable
  rwa [Nat.cast_one, div_one] at hvalue

theorem HasValue.exists_mul_eq_ofRatio {a b : Binary64} {p q : ℚ} (ha : a.HasValue p)
    (hb : b.HasValue q) :
    ∃ num den : Nat, 0 < den ∧ a * b = ofRatio false num den ∧ (num / den : ℚ) = p * q := by
  obtain ⟨m, e, _, rfl, rfl⟩ := ha
  obtain ⟨n, f, _, rfl, rfl⟩ := hb
  refine ⟨(m * n) <<< (e + f).toNat, 1 <<< (-(e + f)).toNat, shiftLeft_pos Nat.one_pos _, rfl, ?_⟩
  rw [cast_shifted_ratio, zpow_add₀ two_ne_zero]
  push_cast
  ring

theorem HasValue.exists_div_eq_ofRatio {a b : Binary64} {p q : ℚ} (ha : a.HasValue p)
    (hb : b.HasValue q) (hq : q ≠ 0) :
    ∃ num den : Nat, 0 < den ∧ a / b = ofRatio false num den ∧ (num / den : ℚ) = p / q := by
  obtain ⟨m, e, _, rfl, rfl⟩ := ha
  obtain ⟨n, f, _, rfl, rfl⟩ := hb
  have hn : n ≠ 0 := by
    rintro rfl
    simp at hq
  refine ⟨m <<< (e - f).toNat, n <<< (-(e - f)).toNat, shiftLeft_pos (Nat.pos_of_ne_zero hn) _,
    if_neg hn, ?_⟩
  rw [cast_shifted_ratio, zpow_sub₀ two_ne_zero]
  field_simp

theorem HasValue.mul {a b : Binary64} {p q : ℚ} (ha : a.HasValue p) (hb : b.HasValue q)
    (h : Representable (p * q)) : (a * b).HasValue (p * q) := by
  obtain ⟨num, den, hden, hproduct, hvalue⟩ := ha.exists_mul_eq_ofRatio hb
  rw [← hvalue] at h
  rw [hproduct, ← hvalue]
  exact hasValue_ofRatio hden h

theorem HasValue.div {a b : Binary64} {p q : ℚ} (ha : a.HasValue p) (hb : b.HasValue q)
    (hq : q ≠ 0) (h : Representable (p / q)) : (a / b).HasValue (p / q) := by
  obtain ⟨num, den, hden, hquotient, hvalue⟩ := ha.exists_div_eq_ofRatio hb hq
  rw [← hvalue] at h
  rw [hquotient, ← hvalue]
  exact hasValue_ofRatio hden h

theorem HasValue.floorClamped {a : Binary64} {q : ℚ} (h : a.HasValue q) (limit : Nat) :
    a.floorClamped limit = min ⌊q⌋₊ limit := by
  obtain ⟨mant, exp, _, rfl, rfl⟩ := h
  simp only [Binary64.floorClamped, Bool.false_eq_true, if_false, Nat.shiftLeft_eq,
    Nat.shiftRight_eq_div_pow]
  congr 1
  obtain ⟨k, rfl | rfl⟩ := exp.eq_nat_or_neg
  · rw [Int.toNat_natCast, Int.toNat_neg_natCast, pow_zero, Nat.div_one, zpow_natCast]
    have hwhole : (mant : ℚ) * 2 ^ k = ((mant * 2 ^ k : Nat) : ℚ) := by
      push_cast
      rfl
    rw [hwhole, Nat.floor_natCast]
  · rw [Int.toNat_neg_natCast, neg_neg, Int.toNat_natCast, pow_zero, mul_one, zpow_neg,
      zpow_natCast, ← div_eq_mul_inv]
    have hquotient : (mant : ℚ) / 2 ^ k = (mant : ℚ) / ((2 ^ k : Nat) : ℚ) := by
      push_cast
      rfl
    rw [hquotient, Nat.floor_div_eq_div]

end Binary64

end RasterText
