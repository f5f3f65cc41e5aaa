import RasterText.Proofs.AcceptedScales
import RasterText.Proofs.SampledColumns

/-!
# Stretching and shrinking rows

A scale of at most one never shows a column twice.  A scale of at least one never skips a
column between two positions and can lose none but the last one.  Both hold although the
quotients of neighbouring positions are rounded apart from each other.
-/

namespace RasterText

section Columns

variable {scale : Binary64} {v : ℚ} {x width k : Nat}

/-! ## Scales of at most one -/

theorem freeColumn_lt_succ (hvalue : scale.HasValue v) (hv : 0 < v) (hone : v ≤ 1)
    (hx : x + 1 ≤ extentLimit) (hlimit : freeColumn x scale < extentLimit) :
    freeColumn x scale < freeColumn (x + 1) scale := by
  rw [← Nat.succ_le_iff, le_freeColumn_iff hvalue hv hx hlimit]
  have hstep : 1 ≤ 1 / v := (one_le_div₀ hv).2 hone
  calc reach (freeColumn x scale + 1) ≤ reach (freeColumn x scale) + 1 := reach_succ_le _
    _ ≤ x / v + 1 / v := add_le_add (reach_freeColumn_le hvalue hv (by omega)) hstep
    _ = ((x + 1 : Nat) : ℚ) / v := by
        push_cast
        ring

/-! ## Scales of at least one -/

/-- No column lies between the columns of neighbouring positions: where `x` stays below `k`,
the next position stays below `k + 1`. -/
theorem div_lt_reach_succ (hvalue : scale.HasValue v) (hone : 1 ≤ v) (hk : k < 2 ^ 52)
    (h : x / v < reach k) : ((x + 1 : Nat) : ℚ) / v < reach (k + 1) := by
  have hv : 0 < v := by linarith
  rw [div_lt_iff₀ hv, reach] at h
  rw [div_lt_iff₀ hv, reach]
  by_contra hskip
  push_cast at hskip
  rcases halfGap_succ k with hsame | ⟨j, hpower, hgap, hdouble⟩
  · -- The thresholds of the two columns are one apart, and `v` is at least one.
    rw [hsame] at hskip
    linarith
  · -- Above a power of two they are closer, but there `x` stays a whole gap below `k * v`.
    have hpos := halfGap_pos k
    have hquarter := halfGap_le hk.le
    have hfour : 4 * halfGap k = 2 ^ ((j : Int) - 52) := by
      rw [hgap, show (j : Int) - 52 = (j - 54) + 2 by ring, zpow_add₀ two_ne_zero, mul_comm]
      norm_num
    have hj : j ≤ 52 := by
      have hlt : 2 ^ j < 2 ^ 52 := hpower ▸ hk
      exact ((Nat.pow_lt_pow_iff_right one_lt_two).1 hlt).le
    have hcast : (2 : ℚ) ^ j = k := by
      rw [hpower]
      norm_cast
    have hbelow : (x : ℚ) < 2 ^ j * v := by
      have := mul_pos hpos hv
      rw [hcast]
      linarith
    have hwhole := hvalue.le_mul_sub hone hj hbelow
    have hfactor : 1 - 2 * halfGap k ≤ v * (1 - 2 * halfGap k) :=
      le_mul_of_one_le_left (by linarith) hone
    rw [hcast, ← hfour] at hwhole
    rw [hdouble] at hskip
    linarith

theorem freeColumn_succ_le (hvalue : scale.HasValue v) (hone : 1 ≤ v)
    (hx : x + 1 ≤ extentLimit) : freeColumn (x + 1) scale ≤ freeColumn x scale + 1 := by
  have hv : 0 < v := by linarith
  by_contra hskip
  have hlimit := freeColumn_le (x + 1) scale
  have hsmall := small_of_le_extentLimit hlimit
  have hbelow : x / v < reach (freeColumn x scale + 1) := by
    rw [← not_le, ← le_freeColumn_iff hvalue hv (by omega) (by omega)]
    omega
  have hnext := div_lt_reach_succ hvalue hone (by omega) hbelow
  rw [← not_le, ← le_freeColumn_iff hvalue hv hx (by omega)] at hnext
  omega

theorem sampledColumn_step (width : Nat) (hvalue : scale.HasValue v) (hone : 1 ≤ v)
    (hx : x + 1 ≤ extentLimit) :
    sampledColumn (x + 1) width scale = sampledColumn x width scale ∨
      sampledColumn (x + 1) width scale = sampledColumn x width scale + 1 := by
  have hmono := freeColumn_mono hvalue (by linarith) (Nat.le_add_right x 1) hx
  have hstep := freeColumn_succ_le hvalue hone hx
  rw [sampledColumn_eq_min, sampledColumn_eq_min]
  omega

theorem exists_sampledColumn_eq (hvalue : scale.HasValue v) (hone : 1 ≤ v) {c : Nat}
    (hx : x ≤ extentLimit) (hc : c ≤ sampledColumn x width scale) :
    ∃ z ≤ x, sampledColumn z width scale = c := by
  induction x with
  | zero =>
      have hzero := sampledColumn_zero width hvalue (by linarith)
      exact ⟨0, Nat.le_refl 0, by omega⟩
  | succ x ih =>
      by_cases hbefore : c ≤ sampledColumn x width scale
      · obtain ⟨z, hz, hcolumn⟩ := ih (by omega) hbefore
        exact ⟨z, by omega, hcolumn⟩
      · have hstep := sampledColumn_step width hvalue hone hx
        exact ⟨x + 1, Nat.le_refl _, by omega⟩

theorem width_le_of_mul_lt (hone : 1 ≤ v) (hlimit : width * v < 2 ^ 32) :
    width ≤ extentLimit := by
  have hwidth : (width : ℚ) ≤ width * v := le_mul_of_one_le_right (Nat.cast_nonneg width) hone
  have hlt : width < 2 ^ 32 := by exact_mod_cast hwidth.trans_lt hlimit
  unfold extentLimit
  omega

theorem floor_le_columnCount (hvalue : scale.HasValue v) (hone : 1 ≤ v)
    (hlimit : width * v < 2 ^ 32) : ⌊(width : ℚ) * v⌋₊ ≤ columnCount width scale := by
  have hnonneg : 0 ≤ width * v := by positivity
  have hfloor : ⌊(width : ℚ) * v⌋₊ < 2 ^ 32 := by
    rw [Nat.floor_lt hnonneg]
    exact_mod_cast hlimit
  rw [le_columnCount_iff hvalue (width_le_of_mul_lt hone hlimit) (by unfold extentLimit; omega)]
  exact (reach_lt _).le.trans (Nat.floor_le hnonneg)

theorem width_le_columnCount (hvalue : scale.HasValue v) (hone : 1 ≤ v)
    (hwidth : width ≤ extentLimit) : width ≤ columnCount width scale := by
  rw [le_columnCount_iff hvalue hwidth hwidth]
  exact (reach_lt width).le.trans (le_mul_of_one_le_right (Nat.cast_nonneg width) hone)

/-- A column is shown when its left edge, stretched, leaves room for a whole position. -/
theorem le_sampledColumn_last (hvalue : scale.HasValue v) (hone : 1 ≤ v)
    (hlimit : width * v < 2 ^ 32) {c : Nat} (hc : c < width)
    (hroom : c * v + 1 ≤ ⌊(width : ℚ) * v⌋₊) :
    c ≤ sampledColumn (columnCount width scale - 1) width scale := by
  have hv : 0 < v := by linarith
  have hwidth := width_le_of_mul_lt hone hlimit
  have hmore := width_le_columnCount hvalue hone hwidth
  have hcount := columnCount_le width scale
  have hlast : c * v ≤ ((columnCount width scale - 1 : Nat) : ℚ) := by
    have hfloor : (⌊(width : ℚ) * v⌋₊ : ℚ) ≤ columnCount width scale := by
      exact_mod_cast floor_le_columnCount hvalue hone hlimit
    rw [Nat.cast_sub (by omega), Nat.cast_one]
    linarith
  have hfree : c ≤ freeColumn (columnCount width scale - 1) scale := by
    rw [le_freeColumn_iff hvalue hv (by omega) (by omega)]
    calc reach c ≤ c := (reach_lt c).le
      _ ≤ ((columnCount width scale - 1 : Nat) : ℚ) / v := (le_div_iff₀ hv).2 hlast
  rw [sampledColumn_eq_min]
  omega

theorem mem_sampledColumns_of_le_last (hvalue : scale.HasValue v) (hone : 1 ≤ v)
    (hpos : 0 < columnCount width scale) {c : Nat}
    (hc : c ≤ sampledColumn (columnCount width scale - 1) width scale) :
    c ∈ sampledColumns width scale := by
  have hcount := columnCount_le width scale
  obtain ⟨x, hx, hcolumn⟩ := exists_sampledColumn_eq hvalue hone (by omega) hc
  exact mem_sampledColumns.2 ⟨x, by omega, hcolumn⟩

theorem fract_eq (hv : 0 ≤ v) : Int.fract (width * v) = width * v - ⌊(width : ℚ) * v⌋₊ := by
  rw [natCast_floor_eq_intCast_floor (by positivity)]
  exact (Int.self_sub_floor _).symm

/-- The last column is shown when the fraction of a position that is cut off is no more than
the part of the column beyond its first position. -/
theorem room_of_fract_le (hv : 0 ≤ v) (hpos : 0 < width)
    (hfract : Int.fract (width * v) ≤ v - 1) :
    ((width - 1 : Nat) : ℚ) * v + 1 ≤ ⌊(width : ℚ) * v⌋₊ := by
  rw [fract_eq hv] at hfract
  rw [Nat.cast_sub hpos, Nat.cast_one]
  linarith

theorem room_of_succ_lt (hone : 1 ≤ v) {c : Nat} (hc : c + 1 < width) :
    (c : ℚ) * v + 1 ≤ ⌊(width : ℚ) * v⌋₊ := by
  have hfloor := Nat.lt_floor_add_one ((width : ℚ) * v)
  have hstretched : ((c + 2 : Nat) : ℚ) * v ≤ width * v := by
    have : ((c + 2 : Nat) : ℚ) ≤ width := by exact_mod_cast hc
    gcongr
  push_cast at hstretched
  linarith

theorem columnCount_le_floor (hvalue : scale.HasValue v) (hv : 0 ≤ v)
    (hwidth : width ≤ extentLimit) (hfract : Int.fract (width * v) < 1 - 1 / 2 ^ 21) :
    columnCount width scale ≤ ⌊(width : ℚ) * v⌋₊ := by
  have hcount := columnCount_le width scale
  have hreach := (le_columnCount_iff hvalue hwidth hcount).1 (Nat.le_refl _)
  have hgap := halfGap_of_le_extentLimit hcount
  have hlt : (columnCount width scale : ℚ) < ⌊(width : ℚ) * v⌋₊ + 1 := by
    rw [fract_eq hv] at hfract
    rw [reach] at hreach
    norm_num at hgap hfract
    linarith
  exact Nat.lt_succ_iff.1 (by exact_mod_cast hlt)

/-- A fraction that is larger, by more than the roundings can hide, loses the last column. -/
theorem last_not_mem_sampledColumns (hvalue : scale.HasValue v) (hone : 1 ≤ v)
    (hpos : 0 < width) (hlimit : width * v < 2 ^ 32)
    (hmore : v - 1 + 1 / 2 ^ 21 < Int.fract (width * v))
    (hless : Int.fract (width * v) < 1 - 1 / 2 ^ 21) :
    width - 1 ∉ sampledColumns width scale := by
  intro hmem
  obtain ⟨x, hx, hcolumn⟩ := mem_sampledColumns.1 hmem
  have hv : 0 < v := by linarith
  have hwidth := width_le_of_mul_lt hone hlimit
  have hcount := columnCount_le width scale
  have hbefore : (x : ℚ) + 1 ≤ ⌊(width : ℚ) * v⌋₊ := by
    exact_mod_cast hx.trans_le (columnCount_le_floor hvalue hv.le hwidth hless)
  have hfree : width - 1 ≤ freeColumn x scale := by
    rw [sampledColumn_eq_min] at hcolumn
    omega
  have hgap := halfGap_of_le_extentLimit (show width - 1 ≤ extentLimit by omega)
  have hsmall : halfGap (width - 1) * v ≤ 1 / 2 ^ 21 := by
    calc halfGap (width - 1) * v ≤ 2 ^ (-22 : Int) * 2 := by
          gcongr
          linarith
      _ = 1 / 2 ^ 21 := by norm_num
  rw [le_freeColumn_iff hvalue hv (by omega) (by omega), le_div_iff₀ hv, reach,
    Nat.cast_sub hpos, Nat.cast_one] at hfree
  rw [fract_eq hv.le] at hmore
  linarith

end Columns

/-! ## Main statements -/

/-- Upscaling shows every column but, at times, the last one.  That one is shown when the
fraction of `width * v` is at most `v - 1`, and up to rounding only then. -/
theorem upscaling_reaches_columns {scale : Binary64} {v : ℚ} {width : Nat}
    (hvalue : scale.HasValue v) (hone : 1 ≤ v) (hpos : 1 ≤ width)
    (hlimit : width * v < 2 ^ 32) :
    (∀ c, c + 1 < width → c ∈ sampledColumns width scale) ∧
    (Int.fract (width * v) ≤ v - 1 → width - 1 ∈ sampledColumns width scale) ∧
    (v - 1 + 1 / 2 ^ 21 < Int.fract (width * v) → Int.fract (width * v) < 1 - 1 / 2 ^ 21 →
      width - 1 ∉ sampledColumns width scale) := by
  have hmore := width_le_columnCount hvalue hone (width_le_of_mul_lt hone hlimit)
  have hshown : ∀ c < width, c * v + 1 ≤ (⌊(width : ℚ) * v⌋₊ : ℚ) →
      c ∈ sampledColumns width scale := by
    intro c hc hroom
    apply mem_sampledColumns_of_le_last hvalue hone (by omega)
    exact le_sampledColumn_last hvalue hone hlimit hc hroom
  refine ⟨?_, ?_, last_not_mem_sampledColumns hvalue hone hpos hlimit⟩
  · intro c hc
    exact hshown c (by omega) (room_of_succ_lt hone hc)
  · intro hfract
    exact hshown (width - 1) (by omega) (room_of_fract_le (by linarith) hpos hfract)

theorem hasValue_defaultScale : defaultScale.HasValue (3 / 2) :=
  ⟨_, _, _, rfl, by norm_num⟩

def fiveQuarters : Binary64 := .finite false 0x14000000000000 (-52) (by decide)

theorem hasValue_fiveQuarters : fiveQuarters.HasValue (5 / 4) :=
  ⟨_, _, _, rfl, by norm_num⟩

theorem upscaling_reaches_columns_default :
    defaultScale.HasValue (3 / 2) ∧ (∀ c < 37, c ∈ sampledColumns 37 defaultScale) ∧
      fiveQuarters.HasValue (5 / 4) ∧ 1 ∉ sampledColumns 2 fiveQuarters := by
  refine ⟨hasValue_defaultScale, ?_, hasValue_fiveQuarters, ?_⟩
  · obtain ⟨hmost, hlast, -⟩ := upscaling_reaches_columns hasValue_defaultScale (by norm_num)
      (show 1 ≤ 37 by decide) (by norm_num)
    intro c hc
    rcases Nat.lt_or_ge (c + 1) 37 with hbefore | hend
    · exact hmost c hbefore
    · obtain rfl : c = 36 := by omega
      exact hlast (by norm_num [Int.fract])
  · obtain ⟨-, -, hlost⟩ := upscaling_reaches_columns hasValue_fiveQuarters (by norm_num)
      (show 1 ≤ 2 by decide) (by norm_num)
    exact hlost (by norm_num [Int.fract]) (by norm_num [Int.fract])

/-- Not every column is shown by every accepted scale of at least one. -/
theorem not_forall_upscaling_reaches_columns :
    ¬ ∀ (settings : Settings) (v : ℚ) (width : Nat), settings.fault? = none →
      settings.scale.HasValue v → 1 ≤ v → 1 ≤ width → width * v < 2 ^ 32 →
        ∀ c < width, c ∈ sampledColumns width settings.scale := by
  intro h
  have hlast := h { scale := fiveQuarters } (5 / 4) 2 (by decide) hasValue_fiveQuarters
    (by norm_num) (by decide) (by norm_num) 1 (by decide)
  have hcolumns : sampledColumns 2 fiveQuarters = [0, 0] := by decide +kernel
  rw [hcolumns] at hlast
  simp at hlast

/-- Upscaling moves from column to column without a jump, from the first one on, and from a
scale of two on up to the last one. -/
theorem upscaling_moves_by_steps {scale : Binary64} {v : ℚ} {width : Nat}
    (hvalue : scale.HasValue v) (hone : 1 ≤ v) (hmost : v ≤ 16) (hpos : 1 ≤ width)
    (hwidth : width ≤ 2 ^ 26) :
    (sampledColumns width scale).head? = some 0 ∧
    (sampledColumns width scale).IsChain (fun a b => b = a ∨ b = a + 1) ∧
    (2 ≤ v → (sampledColumns width scale).getLast? = some (width - 1) ∧
      ∀ c < width, c ∈ sampledColumns width scale) := by
  have hlimit : width * v < 2 ^ 32 := by
    calc (width : ℚ) * v ≤ 2 ^ 26 * 16 := by
          gcongr
          exact_mod_cast hwidth
      _ < 2 ^ 32 := by norm_num
  have hmore := width_le_columnCount hvalue hone (width_le_of_mul_lt hone hlimit)
  have hcount := columnCount_le width scale
  refine ⟨head?_sampledColumns hvalue (by linarith) (by omega), ?_, ?_⟩
  · rw [isChain_sampledColumns_iff]
    intro x hx
    exact sampledColumn_step width hvalue hone (by omega)
  · intro htwo
    have hroom := room_of_fract_le (by linarith) hpos
      ((Int.fract_lt_one _).le.trans (by linarith))
    have hlast := le_sampledColumn_last hvalue hone hlimit (Nat.sub_lt hpos Nat.one_pos) hroom
    constructor
    · have hinside := sampledColumn_lt (columnCount width scale - 1) scale hpos
      rw [getLast?_sampledColumns (by omega), Option.some_inj]
      omega
    · intro c hc
      exact mem_sampledColumns_of_le_last hvalue hone (by omega) (by omega)

def justAboveOne : Binary64 := .finite false 0x10000000000001 (-52) (by decide)

theorem hasValue_justAboveOne : justAboveOne.HasValue (1 + 1 / 2 ^ 52) :=
  ⟨_, _, _, rfl, by norm_num⟩

theorem upscaling_moves_by_steps_justAboveOne :
    justAboveOne.HasValue (1 + 1 / 2 ^ 52) ∧
      (sampledColumns (2 ^ 26) justAboveOne).IsChain (fun a b => b = a ∨ b = a + 1) ∧
      maxScale.HasValue 16 ∧ (sampledColumns 3 maxScale).getLast? = some 2 := by
  refine ⟨hasValue_justAboveOne, ?_, hasValue_maxScale, ?_⟩
  · exact (upscaling_moves_by_steps hasValue_justAboveOne (by norm_num) (by norm_num)
      (by norm_num) (Nat.le_refl _)).2.1
  · exact ((upscaling_moves_by_steps hasValue_maxScale (by norm_num) (by norm_num)
      (by decide) (by norm_num)).2.2 (by norm_num)).1

/-- Downscaling shows no column twice: the columns rise from the first one on and stay in
the row.  At scale one they are all columns in their order. -/
theorem downscaling_shows_columns_once {settings : Settings} {v : ℚ} {width : Nat}
    (haccepted : settings.fault? = none) (hvalue : settings.scale.HasValue v) (hone : v ≤ 1)
    (hpos : 1 ≤ width) (hwidth : width ≤ extentLimit) :
    (sampledColumns width settings.scale).Pairwise (· < ·) ∧
    (∀ c ∈ sampledColumns width settings.scale, c < width) ∧
    (sampledColumns width settings.scale ≠ [] →
      (sampledColumns width settings.scale).head? = some 0) ∧
    (v = 1 → sampledColumns width settings.scale = List.range width) := by
  obtain ⟨hleast, -⟩ := Settings.bounds_of_accepted haccepted hvalue
  have hv : 0 < v := by linarith
  have hcount := columnCount_le width settings.scale
  refine ⟨?_, ?_, ?_, ?_⟩
  · rw [← List.isChain_iff_pairwise, isChain_sampledColumns_iff]
    intro x hx
    have hinside := freeColumn_lt_width hvalue hv hwidth (show x < _ by omega)
    rw [sampledColumn_eq_freeColumn hvalue hv hwidth hx,
      sampledColumn_eq_freeColumn hvalue hv hwidth (by omega)]
    exact freeColumn_lt_succ hvalue hv hone (by omega) (by omega)
  · intro c hc
    obtain ⟨x, -, rfl⟩ := mem_sampledColumns.1 hc
    exact sampledColumn_lt x settings.scale hpos
  · intro hne
    apply head?_sampledColumns hvalue hv
    rwa [← length_sampledColumns, List.length_pos_iff]
  · rintro rfl
    exact sampledColumns_of_hasValue_one hvalue hwidth

theorem downscaling_shows_columns_once_least :
    ({ scale := minScale } : Settings).fault? = none ∧
      sampledColumns 25 minScale = [0, 10] ∧
      (sampledColumns extentLimit minScale).Pairwise (· < ·) := by
  have haccepted : ({ scale := minScale } : Settings).fault? = none := by decide
  have honce := downscaling_shows_columns_once haccepted hasValue_minScale (by norm_num)
    (by decide) (Nat.le_refl extentLimit)
  exact ⟨haccepted, by decide +kernel, honce.1⟩

end RasterText
