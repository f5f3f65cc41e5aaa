import RasterText.Proofs.AcceptedScales
import RasterText.Proofs.Rendering
import RasterText.Proofs.SampledColumns

/-!
# Scales that leave no column

An accepted scale is refused for an image when no output position is left, and this is
decided by the rounded product of width and scale.  The exact product decides it too: it may
be below one by at most half the distance to the double before one.
-/

namespace RasterText

theorem reach_one : reach 1 = 1 - 2 ^ (-54 : Int) := by
  norm_num [reach, halfGap]

theorem one_le_extentLimit : 1 ≤ extentLimit := by decide

theorem columnCount_eq_zero_iff {scale : Binary64} {v : ℚ} {width : Nat}
    (hvalue : scale.HasValue v) (hwidth : width ≤ extentLimit) :
    columnCount width scale = 0 ↔ width * v < 1 - 2 ^ (-54 : Int) := by
  have hreached := le_columnCount_iff hvalue hwidth one_le_extentLimit
  rw [reach_one] at hreached
  rw [← not_le, ← hreached, Nat.not_le, Nat.lt_one_iff]

/-- Ten columns are enough for every accepted scale, for the least one is above one tenth. -/
theorem one_le_mul_of_accepted {settings : Settings} {v : ℚ} {width : Nat}
    (haccepted : settings.fault? = none) (hvalue : settings.scale.HasValue v)
    (h : 10 ≤ width ∨ (0 < width ∧ 1 ≤ v)) : 1 ≤ width * v := by
  obtain ⟨htenth, -⟩ := Settings.bounds_of_accepted haccepted hvalue
  rcases h with hwide | ⟨hpos, hone⟩
  · have hcast : (10 : ℚ) ≤ width := by exact_mod_cast hwide
    calc (1 : ℚ) = 10 * (1 / 10) := by norm_num
      _ ≤ width * v := by gcongr
  · have hcast : (1 : ℚ) ≤ width := by exact_mod_cast hpos
    exact one_le_mul_of_one_le_of_one_le hcast hone

namespace Image

/-- With accepted settings and an image that has pixels, rendering fails only for want of
columns, and exactly when the exact product of width and scale is too small to be rounded
to one. -/
theorem render_noColumns_iff {image : Image} {settings : Settings} {v : ℚ}
    (haccepted : settings.fault? = none) (hvalue : settings.scale.HasValue v)
    (hfilled : image.IsFilled) :
    (image.render settings = .error (image.noColumns settings) ↔
      image.width * v < 1 - 2 ^ (-54 : Int)) ∧
    ((∃ lines, image.render settings = .ok lines) ↔
      ¬ image.width * v < 1 - 2 ^ (-54 : Int)) ∧
    (10 ≤ image.width ∨ 1 ≤ v → ∃ lines, image.render settings = .ok lines) := by
  have hzero := columnCount_eq_zero_iff hvalue image.width_le
  have hsucceeds : (∃ lines, image.render settings = .ok lines) ↔
      ¬ image.width * v < 1 - 2 ^ (-54 : Int) := by
    rw [← hzero]
    constructor
    · rintro ⟨lines, hrender⟩
      obtain ⟨hrenders, -⟩ := render_eq_ok_iff.1 hrender
      exact hrenders.columns
    · intro hcolumns
      exact ⟨_, render_eq_ok_iff.2 ⟨⟨haccepted, hfilled, hcolumns⟩, rfl⟩⟩
  refine ⟨?_, hsucceeds, ?_⟩
  · constructor
    · intro hrender
      by_contra hcolumns
      obtain ⟨lines, hlines⟩ := hsucceeds.2 hcolumns
      rw [hrender] at hlines
      contradiction
    · intro hsmall
      exact render_of_no_columns haccepted hfilled (hzero.2 hsmall)
  · intro hlarge
    have hone : 1 ≤ image.width * v := by
      apply one_le_mul_of_accepted haccepted hvalue
      exact hlarge.imp_right fun h => ⟨hfilled.1, h⟩
    rw [hsucceeds, not_lt]
    have hgap : (0 : ℚ) < 2 ^ (-54 : Int) := by positivity
    linarith

def blackRow (width : Nat) (h : width ≤ extentLimit) : Image :=
  ⟨width, 1, Array.replicate width ⟨0, 0, 0, 255⟩,
    Array.size_replicate.trans (Nat.mul_one width).symm, h, one_le_extentLimit⟩

/-- The double nearest to one third.  Three times it lies halfway between one and the double
before one. -/
def oneThird : Binary64 := .finite false 0x15555555555555 (-54) (by decide)

def belowThird : Binary64 := .finite false 0x15555555555554 (-54) (by decide)

theorem render_noColumns_iff_thirds :
    (∃ lines, (blackRow 3 (by decide)).render { scale := oneThird } = .ok lines) ∧
      (blackRow 3 (by decide)).render { scale := belowThird } =
        .error (.invalidSettings (.noColumns belowThird 3)) ∧
      (blackRow 9 (by decide)).render { scale := minScale } =
        .error (.invalidSettings (.noColumns minScale 9)) ∧
      ∃ lines, (blackRow 10 (by decide)).render { scale := minScale } = .ok lines := by
  have hthird : oneThird.HasValue (0x15555555555555 * 2 ^ (-54 : Int)) :=
    ⟨_, _, _, rfl, by norm_num⟩
  have hbelow : belowThird.HasValue (0x15555555555554 * 2 ^ (-54 : Int)) :=
    ⟨_, _, _, rfl, by norm_num⟩
  have hthree : (blackRow 3 (by decide)).IsFilled := by decide
  have hleast : Settings.fault? { scale := minScale } = none := by decide
  have hreached := render_noColumns_iff
    (show Settings.fault? { scale := oneThird } = none by decide) hthird hthree
  have hmissed := render_noColumns_iff
    (show Settings.fault? { scale := belowThird } = none by decide) hbelow hthree
  have hnine := render_noColumns_iff hleast hasValue_minScale
    (show (blackRow 9 (by decide)).IsFilled by decide)
  have hten := render_noColumns_iff hleast hasValue_minScale
    (show (blackRow 10 (by decide)).IsFilled by decide)
  refine ⟨hreached.2.1.2 ?_, hmissed.1.2 ?_, hnine.1.2 ?_, hten.2.2 (.inl (Nat.le_refl 10))⟩
  · norm_num [blackRow]
  · norm_num [blackRow]
  · norm_num [blackRow]

end Image

end RasterText
