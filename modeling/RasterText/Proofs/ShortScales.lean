import RasterText.Proofs.Stretching

/-!
# Short scales

A scale is short when it is a fraction `num / 2 ^ places` with `num` at most `2 ^ 20`, as one
and a half is.  Its products with widths need no rounding.  Its quotients do, but a quotient
that is not whole stays `1 / num` away from the next whole number, and no rounding bridges
that.  So rows are stretched by exact whole-number division, and every column but the last
is shown equally often, up to one.
-/

namespace RasterText

/-! ## Exact counts and columns -/

/-- A fraction with a small denominator reaches a whole number only by meeting it. -/
theorem reach_le_div_iff {num den k : Nat} (hpos : 0 < den) (hsmall : den ≤ 2 ^ 20)
    (hk : k ≤ extentLimit) : reach k ≤ (num / den : ℚ) ↔ k ≤ num / den := by
  have hden : (0 : ℚ) < den := by exact_mod_cast hpos
  rw [Nat.le_div_iff_mul_le hpos]
  constructor
  · intro hreach
    by_contra hbelow
    have hless : (num : ℚ) + 1 ≤ k * den := by exact_mod_cast Nat.lt_of_not_le hbelow
    have hgap := halfGap_of_le_extentLimit hk
    have hwide : halfGap k * den < 1 := by
      calc halfGap k * den ≤ 2 ^ (-22 : Int) * 2 ^ 20 := by
            gcongr
            exact_mod_cast hsmall
        _ < 1 := by norm_num
    rw [reach, le_div_iff₀ hden] at hreach
    linarith
  · intro hwhole
    apply (reach_lt k).le.trans
    rw [le_div_iff₀ hden]
    exact_mod_cast hwhole

section Short

variable {scale : Binary64} {num places width x k : Nat}

theorem num_pos_of_tenth_le (htenth : (1 / 10 : ℚ) ≤ num / 2 ^ places) : 0 < num := by
  rw [Nat.pos_iff_ne_zero]
  rintro rfl
  norm_num at htenth

theorem places_lt_of_tenth_le (htenth : (1 / 10 : ℚ) ≤ num / 2 ^ places)
    (hshort : num ≤ 2 ^ 20) : places < 24 := by
  have hpower : (0 : ℚ) < 2 ^ places := by positivity
  rw [le_div_iff₀ hpower] at htenth
  have hless : (2 : ℚ) ^ places < 2 ^ 24 := by
    calc (2 : ℚ) ^ places ≤ 10 * num := by linarith
      _ ≤ 10 * 2 ^ 20 := by
          gcongr
          exact_mod_cast hshort
      _ < 2 ^ 24 := by norm_num
  exact (pow_lt_pow_iff_right₀ one_lt_two).1 hless

theorem representable_mul_short (hplaces : places < 24) (hshort : num ≤ 2 ^ 20)
    (hwidth : width ≤ extentLimit) :
    Binary64.Representable (width * (num / 2 ^ places : ℚ)) := by
  refine ⟨width * num, -places, ?_, by omega, by omega, ?_⟩
  · calc width * num ≤ 2 ^ 32 * 2 ^ 20 :=
          Nat.mul_le_mul (small_of_le_extentLimit hwidth) hshort
      _ < 2 ^ 53 := by norm_num
  · rw [zpow_neg, zpow_natCast]
    push_cast
    ring

theorem floor_mul_short (width num places : Nat) :
    ⌊(width : ℚ) * (num / 2 ^ places)⌋₊ = width * num / 2 ^ places := by
  have hfraction : (width : ℚ) * (num / 2 ^ places) =
      ((width * num : Nat) : ℚ) / ((2 ^ places : Nat) : ℚ) := by
    push_cast
    ring
  rw [hfraction, Nat.floor_div_eq_div]

theorem columnCount_short (hvalue : scale.HasValue (num / 2 ^ places)) (hplaces : places < 24)
    (hshort : num ≤ 2 ^ 20) (hwidth : width ≤ extentLimit) :
    columnCount width scale = min (width * num / 2 ^ places) extentLimit := by
  have hproduct := (hasValue_ofNat_of_le_extentLimit hwidth).mul hvalue
    (representable_mul_short hplaces hshort hwidth)
  rw [columnCount, hproduct.floorClamped, floor_mul_short]

theorem freeColumn_short (hvalue : scale.HasValue (num / 2 ^ places)) (hnum : 0 < num)
    (hshort : num ≤ 2 ^ 20) (hx : x ≤ extentLimit) :
    freeColumn x scale = min (x * 2 ^ places / num) extentLimit := by
  have hv : (0 : ℚ) < num / 2 ^ places := by positivity
  have hfraction : (x : ℚ) / (num / 2 ^ places) = ((x * 2 ^ places : Nat) : ℚ) / num := by
    push_cast
    field_simp
  have hcolumn : ∀ k ≤ extentLimit, k ≤ freeColumn x scale ↔ k ≤ x * 2 ^ places / num := by
    intro k hk
    rw [le_freeColumn_iff hvalue hv hx hk, hfraction, reach_le_div_iff hnum hshort hk]
  apply Nat.le_antisymm
  · have hlimit := freeColumn_le x scale
    exact Nat.le_min.2 ⟨(hcolumn _ hlimit).1 (Nat.le_refl _), hlimit⟩
  · exact (hcolumn _ (Nat.min_le_right ..)).2 (Nat.min_le_left ..)

/-! ## The positions of a column -/

/-- The first position, on a row stretched by `v`, that is not before column `c`. -/
def firstPosition (v : ℚ) (c : Nat) : Nat :=
  ⌈(c : ℚ) * v⌉₊

theorem firstPosition_succ {v : ℚ} (hv : 0 ≤ v) (c : Nat) :
    firstPosition v (c + 1) = firstPosition v c + ⌊v⌋₊ ∨
      firstPosition v (c + 1) = firstPosition v c + ⌈v⌉₊ := by
  have hsum : ((c + 1 : Nat) : ℚ) * v = c * v + v := by
    push_cast
    ring
  have hleast : firstPosition v c + ⌊v⌋₊ ≤ firstPosition v (c + 1) := by
    rw [firstPosition, firstPosition, hsum, ← Nat.ceil_add_natCast (by positivity)]
    apply Nat.ceil_mono
    have := Nat.floor_le hv
    gcongr
  have hmost : firstPosition v (c + 1) ≤ firstPosition v c + ⌈v⌉₊ := by
    rw [firstPosition, firstPosition, hsum]
    exact Nat.ceil_add_le _ _
  have hwidth := Nat.ceil_le_floor_add_one v
  omega

theorem le_freeColumn_short_iff (hvalue : scale.HasValue (num / 2 ^ places)) (hnum : 0 < num)
    (hshort : num ≤ 2 ^ 20) (hx : x ≤ extentLimit) (hk : k ≤ extentLimit) :
    k ≤ freeColumn x scale ↔ firstPosition (num / 2 ^ places) k ≤ x := by
  have hpower : (0 : ℚ) < 2 ^ places := by positivity
  rw [freeColumn_short hvalue hnum hshort hx, Nat.le_min, and_iff_left hk,
    Nat.le_div_iff_mul_le hnum, firstPosition, Nat.ceil_le, ← mul_div_assoc,
    div_le_iff₀ hpower]
  exact_mod_cast Iff.rfl

theorem sampledColumn_short_eq_iff (hvalue : scale.HasValue (num / 2 ^ places))
    (hnum : 0 < num) (hshort : num ≤ 2 ^ 20) (hwidth : width ≤ extentLimit)
    (hx : x < columnCount width scale) {c : Nat} (hc : c < width) :
    sampledColumn x width scale = c ↔
      firstPosition (num / 2 ^ places) c ≤ x ∧ x < firstPosition (num / 2 ^ places) (c + 1) := by
  have hv : (0 : ℚ) < num / 2 ^ places := by positivity
  have hcount := columnCount_le width scale
  have hposition : x ≤ extentLimit := by omega
  have hfrom := le_freeColumn_short_iff hvalue hnum hshort hposition
    (show c ≤ extentLimit by omega)
  have hto := le_freeColumn_short_iff hvalue hnum hshort hposition
    (show c + 1 ≤ extentLimit by omega)
  rw [sampledColumn_eq_freeColumn hvalue hv hwidth hx]
  omega

/-- A function that takes a value on one stretch of the positions gives a list with one block
of that value. -/
theorem block_of_map_range {f : Nat → Nat} {c first next count : Nat}
    (h : ∀ x < count, f x = c ↔ first ≤ x ∧ x < next) :
    ((List.range count).map f).count c = min next count - first ∧
      List.replicate (min next count - first) c <:+: (List.range count).map f := by
  generalize hlength : min next count - first = length
  generalize hcut : min first count = cut
  obtain ⟨rest, hcount⟩ : ∃ rest, count = cut + (length + rest) :=
    ⟨count - cut - length, by omega⟩
  have hsplit : List.range count =
      List.range' 0 cut ++ (List.range' cut length ++ List.range' (cut + length) rest) := by
    rw [hcount, List.range_eq_range', ← List.range'_append_1, Nat.zero_add,
      List.range'_append_1]
  have hnone : ∀ positions : List Nat,
      (∀ x ∈ positions, x < count ∧ ¬ (first ≤ x ∧ x < next)) → c ∉ positions.map f := by
    intro positions houtside hmem
    obtain ⟨x, hx, hcolumn⟩ := List.mem_map.1 hmem
    exact (houtside x hx).2 ((h x (houtside x hx).1).1 hcolumn)
  have hbefore : c ∉ (List.range' 0 cut).map f := by
    apply hnone
    intro x hx
    rw [List.mem_range'_1] at hx
    omega
  have hblock : (List.range' cut length).map f = List.replicate length c := by
    rw [List.eq_replicate_iff, List.length_map, List.length_range']
    refine ⟨rfl, ?_⟩
    intro d hd
    obtain ⟨x, hx, rfl⟩ := List.mem_map.1 hd
    rw [List.mem_range'_1] at hx
    exact (h x (by omega)).2 (by omega)
  have hafter : c ∉ (List.range' (cut + length) rest).map f := by
    apply hnone
    intro x hx
    rw [List.mem_range'_1] at hx
    omega
  rw [hsplit, List.map_append, List.map_append, hblock]
  constructor
  · rw [List.count_append, List.count_append, List.count_eq_zero_of_not_mem hbefore,
      List.count_eq_zero_of_not_mem hafter, List.count_replicate_self, Nat.zero_add,
      Nat.add_zero]
  · exact ⟨_, _, List.append_assoc ..⟩

theorem block_of_sampledColumns_short (hvalue : scale.HasValue (num / 2 ^ places))
    (hnum : 0 < num) (hshort : num ≤ 2 ^ 20) (hwidth : width ≤ extentLimit) {c : Nat}
    (hc : c < width) :
    (sampledColumns width scale).count c =
        min (firstPosition (num / 2 ^ places) (c + 1)) (columnCount width scale) -
          firstPosition (num / 2 ^ places) c ∧
      List.replicate ((sampledColumns width scale).count c) c <:+:
        sampledColumns width scale := by
  have hblock := block_of_map_range fun x (hx : x < columnCount width scale) =>
    sampledColumn_short_eq_iff hvalue hnum hshort hwidth hx hc
  refine ⟨hblock.1, ?_⟩
  rw [sampledColumns, hblock.1]
  exact hblock.2

end Short

theorem width_le_of_floor_le {num places width : Nat}
    (hone : (1 : ℚ) ≤ num / 2 ^ places) (hlimit : width * num / 2 ^ places ≤ extentLimit) :
    width ≤ extentLimit := by
  have hpower : (0 : ℚ) < 2 ^ places := by positivity
  rw [one_le_div₀ hpower] at hone
  have hnum : 2 ^ places ≤ num := by exact_mod_cast hone
  have hwidth : width ≤ width * num / 2 ^ places := by
    rw [Nat.le_div_iff_mul_le (by positivity)]
    exact Nat.mul_le_mul_left width hnum
  omega

/-! ## One and a half -/

theorem firstPosition_threeHalves (c : Nat) : firstPosition (3 / 2) c = (3 * c + 1) / 2 := by
  apply eq_of_forall_ge_iff
  intro x
  rw [firstPosition, Nat.ceil_le, ← mul_div_assoc, div_le_iff₀ two_pos]
  have hcast : (c : ℚ) * 3 ≤ x * 2 ↔ c * 3 ≤ x * 2 := by exact_mod_cast Iff.rfl
  rw [hcast]
  omega

theorem hasValue_defaultScale_short : defaultScale.HasValue ((3 : Nat) / 2 ^ 1) := by
  simpa using hasValue_defaultScale

/-- At one and a half every other column is shown twice, unless it is the last one. -/
theorem count_sampledColumns_default {width : Nat} (hlimit : width * 3 / 2 ≤ extentLimit)
    {c : Nat} (hc : c < width) :
    (sampledColumns width defaultScale).count c =
      if c % 2 = 1 ∨ c + 1 = width then 1 else 2 := by
  have hvalue := hasValue_defaultScale_short
  have hwidth : width ≤ extentLimit := by omega
  have hcount : columnCount width defaultScale = width * 3 / 2 := by
    rw [columnCount_short hvalue (by decide) (by norm_num) hwidth]
    omega
  have hblock := (block_of_sampledColumns_short hvalue (by decide) (by norm_num) hwidth hc).1
  rw [hcount, Nat.cast_ofNat, pow_one, firstPosition_threeHalves,
    firstPosition_threeHalves] at hblock
  rw [hblock]
  split <;> omega

/-! ## Main statements -/

/-- Under an accepted short scale, counts and columns are those of whole-number division. -/
theorem columns_of_short_scale {settings : Settings} {num places width x : Nat}
    (haccepted : settings.fault? = none) (hvalue : settings.scale.HasValue (num / 2 ^ places))
    (hshort : num ≤ 2 ^ 20) (hwidth : width ≤ extentLimit) (hx : x ≤ extentLimit) :
    columnCount width settings.scale = min (width * num / 2 ^ places) extentLimit ∧
      sampledColumn x width settings.scale = min (x * 2 ^ places / num) (width - 1) := by
  obtain ⟨htenth, -⟩ := Settings.bounds_of_accepted haccepted hvalue
  have hnum := num_pos_of_tenth_le htenth
  have hplaces := places_lt_of_tenth_le htenth hshort
  refine ⟨columnCount_short hvalue hplaces hshort hwidth, ?_⟩
  rw [sampledColumn_eq_min, freeColumn_short hvalue hnum hshort hx]
  omega

def justBelowTwo : Binary64 := .finite false 0x1ffffe00000000 (-52) (by decide)

theorem columns_of_short_scale_justBelowTwo :
    justBelowTwo.HasValue ((2 ^ 20 - 1 : Nat) / 2 ^ 19) ∧
      columnCount 1048577 justBelowTwo = 2097151 ∧
      sampledColumn 4294963198 extentLimit justBelowTwo = 2147483646 := by
  have hvalue : justBelowTwo.HasValue ((2 ^ 20 - 1 : Nat) / 2 ^ 19) :=
    ⟨_, _, _, rfl, by norm_num⟩
  have haccepted : Settings.fault? { scale := justBelowTwo } = none := by decide
  have hcount := (columns_of_short_scale haccepted hvalue (by norm_num)
    (show 1048577 ≤ extentLimit by decide) (Nat.zero_le _)).1
  have hcolumn := (columns_of_short_scale haccepted hvalue (by norm_num)
    (Nat.le_refl extentLimit) (show 4294963198 ≤ extentLimit by decide)).2
  exact ⟨hvalue, hcount, hcolumn⟩

/-- Upscaling by a short scale shows every column before the last one shown as often as the
scale says, rounded down or up, and at positions that follow each other. -/
theorem short_upscaling_stretches_evenly {scale : Binary64} {num places width : Nat}
    (hvalue : scale.HasValue (num / 2 ^ places)) (hshort : num ≤ 2 ^ 20)
    (hone : (1 : ℚ) ≤ num / 2 ^ places) (hpos : 1 ≤ width)
    (hlimit : width * num / 2 ^ places ≤ extentLimit) :
    (∃ last, (sampledColumns width scale).getLast? = some last ∧
      ∀ c < last,
        ((sampledColumns width scale).count c = ⌊(num / 2 ^ places : ℚ)⌋₊ ∨
          (sampledColumns width scale).count c = ⌈(num / 2 ^ places : ℚ)⌉₊) ∧
        List.replicate ((sampledColumns width scale).count c) c <:+:
          sampledColumns width scale) ∧
    (scale = defaultScale → ∀ c < width,
      (sampledColumns width scale).count c = if c % 2 = 1 ∨ c + 1 = width then 1 else 2) := by
  have hv : (0 : ℚ) < num / 2 ^ places := by linarith
  have hnum := num_pos_of_tenth_le (show (1 / 10 : ℚ) ≤ num / 2 ^ places by linarith)
  have hwidth := width_le_of_floor_le hone hlimit
  have hmore := width_le_columnCount hvalue hone hwidth
  have hcount := columnCount_le width scale
  constructor
  · refine ⟨_, getLast?_sampledColumns (by omega), ?_⟩
    intro c hc
    have hinside := sampledColumn_lt (columnCount width scale - 1) scale hpos
    have hnext : firstPosition (num / 2 ^ places) (c + 1) ≤ columnCount width scale - 1 := by
      rw [sampledColumn_eq_min] at hc
      rw [← le_freeColumn_short_iff hvalue hnum hshort (by omega) (by omega)]
      omega
    obtain ⟨htimes, htogether⟩ :=
      block_of_sampledColumns_short hvalue hnum hshort hwidth (show c < width by omega)
    refine ⟨?_, htogether⟩
    rw [htimes]
    rcases firstPosition_succ hv.le c with hdown | hup
    · left
      omega
    · right
      omega
  · rintro rfl c hc
    have hsame := hvalue.unique hasValue_defaultScale_short
    rw [← floor_mul_short, hsame, floor_mul_short, pow_one] at hlimit
    exact count_sampledColumns_default hlimit hc

def nineQuarters : Binary64 := .finite false 0x12000000000000 (-51) (by decide)

theorem short_upscaling_stretches_evenly_default :
    defaultScale.HasValue ((3 : Nat) / 2 ^ 1) ∧
      (sampledColumns 2863311529 defaultScale).count 2863311526 = 2 ∧
      (sampledColumns 2863311529 defaultScale).count 2863311527 = 1 ∧
      (sampledColumns 2863311529 defaultScale).count 2863311528 = 1 ∧
      nineQuarters.HasValue ((9 : Nat) / 2 ^ 2) ∧
      sampledColumns 5 nineQuarters = [0, 0, 0, 1, 1, 2, 2, 3, 3, 4, 4] ∧
      ∀ c < 4, (sampledColumns 5 nineQuarters).count c = 2 ∨
        (sampledColumns 5 nineQuarters).count c = 3 := by
  have hquarters : nineQuarters.HasValue ((9 : Nat) / 2 ^ 2) :=
    ⟨_, _, _, rfl, by norm_num⟩
  have hcolumns : sampledColumns 5 nineQuarters = [0, 0, 0, 1, 1, 2, 2, 3, 3, 4, 4] := by
    decide +kernel
  have htimes := (short_upscaling_stretches_evenly hasValue_defaultScale_short (by norm_num)
    (by norm_num) (show 1 ≤ 2863311529 by decide) (by decide)).2 rfl
  refine ⟨hasValue_defaultScale_short, htimes _ (by decide), htimes _ (by decide),
    htimes _ (by decide), hquarters, hcolumns, ?_⟩
  obtain ⟨last, hlast, heven⟩ := (short_upscaling_stretches_evenly hquarters (by norm_num)
    (by norm_num) (show 1 ≤ 5 by decide) (by decide)).1
  obtain rfl : 4 = last := by simpa [hcolumns] using hlast
  intro c hc
  have hfloor : ⌊((9 : Nat) / 2 ^ 2 : ℚ)⌋₊ = 2 := by norm_num
  have hceil : ⌈((9 : Nat) / 2 ^ 2 : ℚ)⌉₊ = 3 := by
    rw [Nat.ceil_eq_iff (by decide)]
    norm_num
  have hboth := (heven c hc).1
  rwa [hfloor, hceil] at hboth

end RasterText
