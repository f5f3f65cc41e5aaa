import RasterText.Proofs.AcceptedScales
import RasterText.Proofs.SampledColumns

/-!
# What rounding does to the samples of a line

Counts and columns are meant as floors of exact results, and computed as floors of rounded
ones.  Two roundings meet at a position of a line, that of the count and that of the
column, and still no column is past the end of the row: the clamp changes no sample that is
used, whatever the scale above zero.  Apart from that, either floor is the exact one, or the
next number where the exact result is within one part in `2 ^ 53` of it.
-/

namespace RasterText

/-! ## The clamp of the column -/

theorem freeColumn_infinite {x : Nat} (hx : x ≤ extentLimit) :
    freeColumn x (.infinite false) = 0 := by
  obtain ⟨mant, exp, canonical, hfinite, -⟩ := hasValue_ofNat_of_le_extentLimit hx
  rw [freeColumn, hfinite]
  exact Binary64.floorClamped_zero extentLimit false

/-- At every position of a line the column is in the row before it is clamped. -/
theorem clamp_keeps_samples {scale : Binary64} {x width : Nat} (hscale : scale.IsPositive)
    (hwidth : width ≤ extentLimit) (hx : x < columnCount width scale) :
    freeColumn x scale ≤ width - 1 ∧ sampledColumn x width scale = freeColumn x scale := by
  have hinside : freeColumn x scale ≤ width - 1 := by
    rcases Binary64.isPositive_iff.1 hscale with rfl | ⟨v, hvalue, hv⟩
    · have hcount := columnCount_le width (.infinite false)
      rw [freeColumn_infinite (by omega)]
      exact Nat.zero_le _
    · exact Nat.le_sub_one_of_lt (freeColumn_lt_width hvalue hv hwidth hx)
  refine ⟨hinside, ?_⟩
  rw [sampledColumn_eq_min]
  exact Nat.min_eq_left hinside

/-- The greatest number of positions, as a scale.  One column takes them all, and the position
after the last would be past it. -/
def limitScale : Binary64 := .finite false 0x1fffffffe00000 (-21) (by decide)

theorem clamp_keeps_samples_limits :
    columnCount 1 limitScale = extentLimit ∧ freeColumn 4294967294 limitScale ≤ 0 ∧
      freeColumn extentLimit limitScale = 1 ∧
      columnCount 1 (.infinite false) = extentLimit ∧
      freeColumn 4294967294 (.infinite false) ≤ 0 := by
  have hcount : columnCount 1 limitScale = extentLimit := by decide +kernel
  have hinfinite : columnCount 1 (.infinite false) = extentLimit := by decide +kernel
  have hlast := clamp_keeps_samples (show limitScale.IsPositive by decide)
    (show 1 ≤ extentLimit by decide)
    (show 4294967294 < columnCount 1 limitScale by rw [hcount]; decide)
  have hbeyond := clamp_keeps_samples (show (Binary64.infinite false).IsPositive by decide)
    (show 1 ≤ extentLimit by decide)
    (show 4294967294 < columnCount 1 (.infinite false) by rw [hinfinite]; decide)
  exact ⟨hcount, hlast.1, by decide +kernel, hinfinite, hbeyond.1⟩

/-! ## Exact floors -/

/-- Under an accepted scale, counts and columns are those of exact arithmetic or greater by
one, and greater only where the exact result is nearly there. -/
theorem samples_near_exact_floors {settings : Settings} {v : ℚ} {width x : Nat}
    (haccepted : settings.fault? = none) (hvalue : settings.scale.HasValue v)
    (hwidth : width ≤ extentLimit) (hx : x ≤ extentLimit) :
    IsNearFloor (width * v) extentLimit (columnCount width settings.scale) ∧
      IsNearFloor (x / v) (width - 1) (sampledColumn x width settings.scale) := by
  obtain ⟨htenth, -⟩ := Settings.bounds_of_accepted haccepted hvalue
  have hv : 0 < v := by linarith
  refine ⟨isNearFloor_columnCount hvalue hv.le hwidth, ?_⟩
  rw [sampledColumn_eq_min]
  exact (isNearFloor_freeColumn hvalue hv hx).min_lower (by omega)

def threeTenths : Binary64 := .finite false 0x13333333333333 (-54) (by decide)

theorem hasValue_threeTenths : threeTenths.HasValue (0x13333333333333 * 2 ^ (-54 : Int)) :=
  ⟨_, _, _, rfl, by norm_num⟩

/-- Ten times `threeTenths` is below three and rounded to it; one over `minScale` is below
ten and rounded to it. -/
theorem samples_near_exact_floors_tenths :
    columnCount 10 threeTenths = 3 ∧ ⌊(10 : ℚ) * (0x13333333333333 * 2 ^ (-54 : Int))⌋₊ = 2 ∧
      IsNearFloor (10 * (0x13333333333333 * 2 ^ (-54 : Int))) extentLimit 3 ∧
      sampledColumn 1 25 minScale = 10 ∧ ⌊(1 : ℚ) / (0x1999999999999a * 2 ^ (-56 : Int))⌋₊ = 9 ∧
      IsNearFloor (1 / (0x1999999999999a * 2 ^ (-56 : Int))) 24 10 := by
  have hcount : columnCount 10 threeTenths = 3 := by decide +kernel
  have hcolumn : sampledColumn 1 25 minScale = 10 := by decide +kernel
  have hcounted := (samples_near_exact_floors
    (show Settings.fault? { scale := threeTenths } = none by decide) hasValue_threeTenths
    (show 10 ≤ extentLimit by decide) (Nat.zero_le _)).1
  have hshown := (samples_near_exact_floors
    (show Settings.fault? { scale := minScale } = none by decide) hasValue_minScale
    (show 25 ≤ extentLimit by decide) (show 1 ≤ extentLimit by decide)).2
  rw [hcount, Nat.cast_ofNat] at hcounted
  rw [hcolumn, Nat.cast_one] at hshown
  refine ⟨hcount, ?_, hcounted, hcolumn, ?_, hshown⟩
  · rw [Nat.floor_eq_iff (by norm_num)]
    norm_num
  · rw [Nat.floor_eq_iff (by norm_num)]
    norm_num

end RasterText
