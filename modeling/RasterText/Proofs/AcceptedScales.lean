import RasterText.Proofs.ExactDoubles
import RasterText.Settings

/-!
# Accepted scales

The order of doubles is the order of their values.  So a number above zero is infinite or
has a value above zero, and an accepted scale has a value between one tenth and sixteen.
-/

namespace RasterText

namespace Binary64

theorem mul_zpow_eq_min (m : Nat) (e f : Int) :
    (m : ℚ) * 2 ^ e = ((m <<< (e - f).toNat : Nat) : ℚ) * 2 ^ min e f := by
  rw [two_pow_shift m (min_le_left e f), Nat.shiftLeft_eq,
    show (e - min e f).toNat = (e - f).toNat by omega]

theorem HasValue.le_iff {a b : Binary64} {p q : ℚ} (ha : a.HasValue p) (hb : b.HasValue q) :
    a.le b = true ↔ p ≤ q := by
  obtain ⟨m, e, _, rfl, rfl⟩ := ha
  obtain ⟨n, f, _, rfl, rfl⟩ := hb
  have hunit : (0 : ℚ) < 2 ^ min e f := by positivity
  rw [mul_zpow_eq_min m e f, mul_zpow_eq_min n f e, min_comm f e, mul_le_mul_iff_left₀ hunit,
    Nat.cast_le, ← Int.ofNat_le]
  exact decide_eq_true_iff

theorem HasValue.not_le_negative {a : Binary64} {p : ℚ} (ha : a.HasValue p) (hp : 0 < p)
    {mant : Nat} {exp : Int} (canonical : IsCanonical mant exp) :
    ¬ a.le (.finite true mant exp canonical) = true := by
  obtain ⟨m, e, _, rfl, rfl⟩ := ha
  have hm : 0 < m := by
    by_contra hzero
    obtain rfl : m = 0 := by omega
    simp at hp
  have hpos := shiftLeft_pos hm (e - exp).toNat
  intro h
  have hle : ((m <<< (e - exp).toNat : Nat) : Int) ≤ -((mant <<< (exp - e).toNat : Nat) : Int) :=
    of_decide_eq_true h
  have hupper := Int.neg_nonpos_of_nonneg (Int.natCast_nonneg (mant <<< (exp - e).toNat))
  exact (Int.natCast_pos.2 hpos).not_ge (hle.trans hupper)

/-- The number is above zero; it may be infinite. -/
def IsPositive (a : Binary64) : Prop :=
  (zero false).le a = true ∧ a.le (zero false) = false

instance (a : Binary64) : Decidable a.IsPositive :=
  inferInstanceAs (Decidable (_ ∧ _))

theorem isPositive_iff {a : Binary64} :
    a.IsPositive ↔ a = .infinite false ∨ ∃ v, a.HasValue v ∧ 0 < v := by
  constructor
  · rintro ⟨hfrom, habove⟩
    match a with
    | .nan => contradiction
    | .infinite true => contradiction
    | .infinite false => exact .inl rfl
    | .finite false mant exp canonical =>
      have hvalue : HasValue (.finite false mant exp canonical) (mant * 2 ^ exp) :=
        ⟨mant, exp, canonical, rfl, rfl⟩
      refine .inr ⟨_, hvalue, ?_⟩
      rwa [← not_le, ← hvalue.le_iff hasValue_zero, Bool.not_eq_true]
    | .finite true mant exp canonical =>
      have hbelow : -((mant <<< (exp - -1074).toNat : Nat) : Int) ≤
          ((0 <<< (-1074 - exp).toNat : Nat) : Int) :=
        (Int.neg_nonpos_of_nonneg (Int.natCast_nonneg _)).trans (Int.natCast_nonneg _)
      rw [← Bool.not_eq_true] at habove
      exact absurd (decide_eq_true hbelow) habove
  · rintro (rfl | ⟨v, hvalue, hpos⟩)
    · decide
    · refine ⟨(hasValue_zero.le_iff hvalue).2 hpos.le, ?_⟩
      rwa [← Bool.not_eq_true, hvalue.le_iff hasValue_zero, not_le]

end Binary64

theorem hasValue_minScale : minScale.HasValue (0x1999999999999a * 2 ^ (-56 : Int)) :=
  ⟨_, _, _, rfl, by norm_num⟩

theorem hasValue_maxScale : maxScale.HasValue 16 :=
  ⟨_, _, _, rfl, by norm_num⟩

namespace Settings

theorem le_of_accepted {settings : Settings} (h : settings.fault? = none) :
    settings.scale.isFinite = true ∧ minScale.le settings.scale = true ∧
      settings.scale.le maxScale = true := by
  unfold fault? at h
  split at h
  · rename_i hfinite
    split at h
    · rename_i hrange
      rw [Bool.and_eq_true] at hrange
      exact ⟨hfinite, hrange⟩
    · contradiction
  · contradiction

theorem exists_hasValue_of_accepted {settings : Settings} (h : settings.fault? = none) :
    ∃ v, settings.scale.HasValue v := by
  obtain ⟨hfinite, hmin, -⟩ := le_of_accepted h
  generalize settings.scale = scale at hfinite hmin
  match scale with
  | .nan => contradiction
  | .infinite _ => contradiction
  | .finite false mant exp canonical => exact ⟨_, mant, exp, canonical, rfl, rfl⟩
  | .finite true mant exp canonical =>
    exact absurd hmin (hasValue_minScale.not_le_negative (by positivity) canonical)

theorem bounds_of_accepted {settings : Settings} {v : ℚ} (h : settings.fault? = none)
    (hvalue : settings.scale.HasValue v) : 1 / 10 ≤ v ∧ v ≤ 16 := by
  obtain ⟨-, hmin, hmax⟩ := le_of_accepted h
  constructor
  · have hleast := (hasValue_minScale.le_iff hvalue).1 hmin
    exact le_trans (by norm_num) hleast
  · exact (hvalue.le_iff hasValue_maxScale).1 hmax

end Settings

end RasterText
