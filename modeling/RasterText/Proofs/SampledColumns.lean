import Mathlib.Data.List.Chain
import Mathlib.Data.List.Range
import RasterText.Proofs.RoundedFloors
import RasterText.Sampling

/-!
# The columns that a line samples

The number of output positions and the column at each of them come from two roundings of
different results.  Neither rounding can carry a position past the last column, so the
clamp of the sampled column changes nothing, and a wider image begins with the columns of
a narrower one.
-/

namespace RasterText

/-- The source column at output position `x`, not yet moved into the row. -/
def freeColumn (x : Nat) (scale : Binary64) : Nat :=
  (Binary64.ofNat x / scale).floorClamped extentLimit

theorem sampledColumn_eq_min (x width : Nat) (scale : Binary64) :
    sampledColumn x width scale = min (freeColumn x scale) (width - 1) := rfl

theorem freeColumn_le (x : Nat) (scale : Binary64) : freeColumn x scale ≤ extentLimit :=
  Binary64.floorClamped_le ..

theorem small_of_le_extentLimit {n : Nat} (h : n ≤ extentLimit) : n ≤ 2 ^ 32 := by
  unfold extentLimit at h
  omega

theorem hasValue_ofNat_of_le_extentLimit {n : Nat} (h : n ≤ extentLimit) :
    (Binary64.ofNat n).HasValue n := by
  have hsmall := small_of_le_extentLimit h
  exact Binary64.hasValue_ofNat (by omega)

theorem halfGap_of_le_extentLimit {k : Nat} (h : k ≤ extentLimit) :
    halfGap k ≤ 2 ^ (-22 : Int) := by
  have hlog : Nat.clog 2 k ≤ 32 := Nat.clog_le_of_le_pow (small_of_le_extentLimit h)
  exact zpow_le_zpow_right₀ one_le_two (by omega)

section Columns

variable {scale : Binary64} {v : ℚ} {x width k : Nat}

theorem le_columnCount_iff (hvalue : scale.HasValue v) (hwidth : width ≤ extentLimit)
    (hk : k ≤ extentLimit) : k ≤ columnCount width scale ↔ reach k ≤ width * v := by
  have hsmall := small_of_le_extentLimit hk
  have hexact := hasValue_ofNat_of_le_extentLimit hwidth
  exact hexact.le_floorClamped_mul_iff hvalue (by omega) hk

theorem le_freeColumn_iff (hvalue : scale.HasValue v) (hv : 0 < v) (hx : x ≤ extentLimit)
    (hk : k ≤ extentLimit) : k ≤ freeColumn x scale ↔ reach k ≤ x / v := by
  have hsmall := small_of_le_extentLimit hk
  have hexact := hasValue_ofNat_of_le_extentLimit hx
  exact hexact.le_floorClamped_div_iff hvalue hv.ne' (by omega) hk

theorem reach_freeColumn_le (hvalue : scale.HasValue v) (hv : 0 < v) (hx : x ≤ extentLimit) :
    reach (freeColumn x scale) ≤ x / v :=
  (le_freeColumn_iff hvalue hv hx (freeColumn_le x scale)).1 (Nat.le_refl _)

theorem isNearFloor_columnCount (hvalue : scale.HasValue v) (hv : 0 ≤ v)
    (hwidth : width ≤ extentLimit) :
    IsNearFloor (width * v) extentLimit (columnCount width scale) := by
  apply isNearFloor_of_reach (by positivity) (by norm_num [extentLimit]) (columnCount_le ..)
  intro k hk
  exact le_columnCount_iff hvalue hwidth hk

theorem isNearFloor_freeColumn (hvalue : scale.HasValue v) (hv : 0 < v) (hx : x ≤ extentLimit) :
    IsNearFloor (x / v) extentLimit (freeColumn x scale) := by
  apply isNearFloor_of_reach (by positivity) (by norm_num [extentLimit]) (freeColumn_le ..)
  intro k hk
  exact le_freeColumn_iff hvalue hv hx hk

theorem freeColumn_mono (hvalue : scale.HasValue v) (hv : 0 < v) {z : Nat} (hxz : x ≤ z)
    (hz : z ≤ extentLimit) : freeColumn x scale ≤ freeColumn z scale := by
  rw [le_freeColumn_iff hvalue hv hz (freeColumn_le x scale)]
  calc reach (freeColumn x scale) ≤ x / v := reach_freeColumn_le hvalue hv (hxz.trans hz)
    _ ≤ z / v := by gcongr

theorem freeColumn_zero (hvalue : scale.HasValue v) (hv : 0 < v) : freeColumn 0 scale = 0 := by
  by_contra hne
  have hreached : 1 ≤ freeColumn 0 scale := Nat.one_le_iff_ne_zero.2 hne
  rw [le_freeColumn_iff hvalue hv (Nat.zero_le _) (by decide), Nat.cast_zero, zero_div] at hreached
  exact (reach_pos Nat.one_pos (by norm_num)).not_ge hreached

/-- The clamp has nothing to do: no position of a line is rounded past the last column. -/
theorem freeColumn_lt_width (hvalue : scale.HasValue v) (hv : 0 < v)
    (hwidth : width ≤ extentLimit) (hx : x < columnCount width scale) :
    freeColumn x scale < width := by
  by_contra hpast
  have hcount := columnCount_le width scale
  have hpos : 0 < width := by
    rw [Nat.pos_iff_ne_zero]
    rintro rfl
    rw [columnCount_zero] at hx
    omega
  have hcolumn := (le_freeColumn_iff hvalue hv (by omega) hwidth).1 (Nat.le_of_not_lt hpast)
  have hposition := (le_columnCount_iff hvalue hwidth (by omega)).1 (show x + 1 ≤ _ from hx)
  rw [le_div_iff₀ hv] at hcolumn
  -- Either rounding changes its result by less than one part in `2 ^ 53`, too little to make
  -- up for the step from `x` to `x + 1`.
  have hless : width * v * (1 - 2 ^ (-53 : Int)) < x := by
    calc (width : ℚ) * v * (1 - 2 ^ (-53 : Int)) = width * (1 - 2 ^ (-53 : Int)) * v := by ring
      _ < reach width * v := mul_lt_mul_of_pos_right (mul_lt_reach hpos) hv
      _ ≤ x := hcolumn
  have hmore : ((x + 1 : Nat) : ℚ) * (1 - 2 ^ (-53 : Int)) < width * v :=
    (mul_lt_reach x.succ_pos).trans_le hposition
  have hsmall : ((x + 1 : Nat) : ℚ) ≤ 2 ^ 32 := by
    exact_mod_cast small_of_le_extentLimit (show x + 1 ≤ extentLimit by omega)
  push_cast at hmore hsmall
  norm_num at hless hmore
  linarith

theorem sampledColumn_eq_freeColumn (hvalue : scale.HasValue v) (hv : 0 < v)
    (hwidth : width ≤ extentLimit) (hx : x < columnCount width scale) :
    sampledColumn x width scale = freeColumn x scale := by
  have hinside := freeColumn_lt_width hvalue hv hwidth hx
  rw [sampledColumn_eq_min]
  omega

/-! A wider image has all positions of a narrower one, and shows the same columns there. -/

theorem columnCount_mono (hvalue : scale.HasValue v) (hv : 0 < v) {wider : Nat}
    (h : width ≤ wider) (hwider : wider ≤ extentLimit) :
    columnCount width scale ≤ columnCount wider scale := by
  have hcount := columnCount_le width scale
  rw [le_columnCount_iff hvalue hwider hcount]
  calc reach (columnCount width scale) ≤ width * v :=
        (le_columnCount_iff hvalue (h.trans hwider) hcount).1 (Nat.le_refl _)
    _ ≤ wider * v := by gcongr

theorem sampledColumn_of_le (hvalue : scale.HasValue v) (hv : 0 < v) {wider : Nat}
    (h : width ≤ wider) (hwider : wider ≤ extentLimit) (hx : x < columnCount width scale) :
    sampledColumn x width scale = sampledColumn x wider scale := by
  have hmono := columnCount_mono hvalue hv h hwider
  rw [sampledColumn_eq_freeColumn hvalue hv (h.trans hwider) hx,
    sampledColumn_eq_freeColumn hvalue hv hwider (by omega)]

theorem sampledColumns_prefix (hvalue : scale.HasValue v) (hv : 0 < v) {wider : Nat}
    (h : width ≤ wider) (hwider : wider ≤ extentLimit) :
    sampledColumns width scale <+: sampledColumns wider scale := by
  have hmono := columnCount_mono hvalue hv h hwider
  have hcolumns : sampledColumns width scale =
      (sampledColumns wider scale).take (columnCount width scale) := by
    rw [sampledColumns, sampledColumns, ← List.map_take, List.take_range, Nat.min_eq_left hmono]
    apply List.map_congr_left
    intro x hx
    exact sampledColumn_of_le hvalue hv h hwider (List.mem_range.1 hx)
  rw [hcolumns]
  exact List.take_prefix ..

theorem sampledColumn_zero (width : Nat) (hvalue : scale.HasValue v) (hv : 0 < v) :
    sampledColumn 0 width scale = 0 := by
  rw [sampledColumn_eq_min, freeColumn_zero hvalue hv, Nat.zero_min]

theorem head?_sampledColumns (hvalue : scale.HasValue v) (hv : 0 < v)
    (hcount : 0 < columnCount width scale) : (sampledColumns width scale).head? = some 0 := by
  obtain ⟨count, hcount⟩ := Nat.exists_eq_add_one.2 hcount
  rw [sampledColumns, hcount, List.range_succ_eq_map, List.map_cons, List.head?_cons,
    sampledColumn_zero _ hvalue hv]

theorem getLast?_sampledColumns (hpos : 0 < columnCount width scale) :
    (sampledColumns width scale).getLast? =
      some (sampledColumn (columnCount width scale - 1) width scale) := by
  rw [sampledColumns, List.getLast?_map, List.getLast?_range, if_neg hpos.ne', Option.map_some]

theorem mem_sampledColumns {c : Nat} :
    c ∈ sampledColumns width scale ↔
      ∃ x < columnCount width scale, sampledColumn x width scale = c := by
  simp [sampledColumns]

theorem isChain_sampledColumns_iff {r : Nat → Nat → Prop} :
    (sampledColumns width scale).IsChain r ↔
      ∀ x, x + 1 < columnCount width scale →
        r (sampledColumn x width scale) (sampledColumn (x + 1) width scale) := by
  rw [sampledColumns, List.isChain_map, List.isChain_range]
  exact forall_congr' fun x => imp_congr (by omega) Iff.rfl

/-! ## Scale one -/

theorem columnCount_of_hasValue_one (hvalue : scale.HasValue 1) (hwidth : width ≤ extentLimit) :
    columnCount width scale = width := by
  have hsmall := small_of_le_extentLimit hwidth
  have hproduct := (hasValue_ofNat_of_le_extentLimit hwidth).mul hvalue
  rw [mul_one] at hproduct
  rw [columnCount, (hproduct (Binary64.representable_natCast (by omega))).floorClamped,
    Nat.floor_natCast, Nat.min_eq_left hwidth]

theorem sampledColumn_of_hasValue_one (hvalue : scale.HasValue 1) (hx : x < width)
    (hwidth : width ≤ extentLimit) : sampledColumn x width scale = x := by
  have hsmall := small_of_le_extentLimit hwidth
  have hquotient := (hasValue_ofNat_of_le_extentLimit (hx.le.trans hwidth)).div hvalue one_ne_zero
  rw [div_one] at hquotient
  rw [sampledColumn, (hquotient (Binary64.representable_natCast (by omega))).floorClamped,
    Nat.floor_natCast]
  omega

theorem sampledColumns_of_hasValue_one (hvalue : scale.HasValue 1)
    (hwidth : width ≤ extentLimit) : sampledColumns width scale = List.range width := by
  have hcolumn : ∀ x ∈ List.range width, sampledColumn x width scale = id x := by
    intro x hx
    exact sampledColumn_of_hasValue_one hvalue (List.mem_range.1 hx) hwidth
  rw [sampledColumns, columnCount_of_hasValue_one hvalue hwidth, List.map_congr_left hcolumn,
    List.map_id]

end Columns

end RasterText
