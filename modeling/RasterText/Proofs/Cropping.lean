import RasterText.Proofs.AcceptedScales
import RasterText.Proofs.SampledColumns
import RasterText.Proofs.Tilings

/-!
# Cropping an image on the right

A crop keeps the first columns of an image.  Its lines end earlier and are otherwise those
of the whole image: the columns that it samples are the first ones that the whole image
samples, and its runs are the runs of the whole image, cut off where its lines end.
-/

namespace RasterText

/-! ## Cutting runs off -/

def Run.upTo (cut : Nat) (run : Run) : Run :=
  { run with length := min run.length (cut - run.start) }

/-- The runs of the positions before `cut`: runs that start later are dropped, and the last
one that is kept is shortened. -/
def truncateRuns (cut : Nat) (runs : List Run) : List Run :=
  (runs.filter fun run => run.start < cut).map (Run.upTo cut)

theorem truncateRuns_cons {cut : Nat} {run : Run} (h : run.start < cut) (runs : List Run) :
    truncateRuns cut (run :: runs) = run.upTo cut :: truncateRuns cut runs := by
  simp [truncateRuns, h]

theorem truncateRuns_eq_nil {cut : Nat} {runs : List Run}
    (h : ∀ run ∈ runs, cut ≤ run.start) : truncateRuns cut runs = [] := by
  simpa [truncateRuns] using h

theorem Run.upTo_eq_self {cut : Nat} {run : Run} (h : run.stop ≤ cut) : run.upTo cut = run := by
  have hlength : min run.length (cut - run.start) = run.length := by
    simp only [stop] at h
    omega
  rw [upTo, hlength]

theorem Run.stop_upTo {cut : Nat} {run : Run} (hstart : run.start ≤ cut) (hstop : cut ≤ run.stop) :
    (run.upTo cut).stop = cut := by
  simp only [stop, upTo] at hstop ⊢
  omega

theorem Run.Fits.upTo {alphaCounts : Bool} {shown : Nat → Pixel} {run : Run} {cut : Nat}
    (h : run.Fits alphaCounts shown) (hcut : run.start < cut) :
    (run.upTo cut).Fits alphaCounts shown where
  pos := by
    have hpos := h.pos
    simp only [Run.upTo]
    omega
  color := h.color
  agrees := by
    intro x hfrom hto
    apply h.agrees x hfrom
    simp only [Run.stop, Run.upTo] at hto ⊢
    omega

namespace Tiles

variable {alphaCounts : Bool} {shown others : Nat → Pixel} {start stop : Nat} {run : Run}
  {runs : List Run}

theorem le_start_of_mem (h : Tiles alphaCounts shown start stop runs) (hrun : run ∈ runs) :
    start ≤ run.start := by
  induction runs generalizing start with
  | nil => simp at hrun
  | cons head runs ih =>
      obtain ⟨hstart, -, -, hrest⟩ := tiles_cons_iff.1 h
      rcases List.mem_cons.1 hrun with rfl | hrun
      · omega
      · have hlater := ih hrest hrun
        simp only [Run.stop] at hlater
        omega

/-- A tiling looks at the row between its ends only. -/
theorem congr (h : Tiles alphaCounts shown start stop runs)
    (hsame : ∀ x, start ≤ x → x < stop → shown x = others x) :
    Tiles alphaCounts others start stop runs where
  first := h.first
  next := h.next
  total := h.total
  differ := h.differ
  fits := by
    intro run hrun
    have hfits := h.fits run hrun
    have hpos := hfits.pos
    have hfrom := h.le_start_of_mem hrun
    have hto := h.stop_le_of_mem hrun
    refine ⟨hpos, ?_, ?_⟩
    · rw [hfits.color]
      apply hsame run.start hfrom
      simp only [Run.stop] at hto
      omega
    · intro x hx hx'
      rw [← hsame x (by omega) (by omega)]
      exact hfits.agrees x hx hx'

/-- A tiling that is cut off tiles the shorter row. -/
theorem truncateRuns {cut : Nat} (h : Tiles alphaCounts shown start stop runs)
    (hfrom : start ≤ cut) (hto : cut ≤ stop) :
    Tiles alphaCounts shown start cut (truncateRuns cut runs) := by
  induction runs generalizing start with
  | nil =>
      have := tiles_nil_iff.1 h
      exact tiles_nil_iff.2 (by omega)
  | cons run runs ih =>
      obtain ⟨hstart, hfits, hdiffer, hrest⟩ := tiles_cons_iff.1 h
      rcases Nat.lt_or_ge start cut with hbefore | hafter
      · have hkept : run.start < cut := by omega
        rw [truncateRuns_cons hkept]
        rcases Nat.lt_or_ge run.stop cut with hinside | hcrossing
        · -- The whole run lies before the cut, and so does the start of the next one.
          rw [Run.upTo_eq_self hinside.le]
          refine tiles_cons_iff.2 ⟨hstart, hfits, ?_, ih hrest hinside.le⟩
          cases runs with
          | nil => simp [RasterText.truncateRuns]
          | cons next runs =>
              obtain ⟨hnext, -, -, -⟩ := tiles_cons_iff.1 hrest
              rw [truncateRuns_cons (by omega)]
              intro other hother
              obtain rfl := Option.mem_some_iff.1 hother
              exact hdiffer next rfl
        · -- The cut shortens the run, and all later ones are dropped.
          rw [truncateRuns_eq_nil fun other hother =>
            hcrossing.trans (hrest.le_start_of_mem hother)]
          refine tiles_cons_iff.2 ⟨hstart, hfits.upTo hkept, by simp, tiles_nil_iff.2 ?_⟩
          exact Run.stop_upTo hkept.le hcrossing
      · rw [truncateRuns_eq_nil fun other hother => hafter.trans (h.le_start_of_mem hother)]
        exact tiles_nil_iff.2 (by omega)

end Tiles

namespace Image

/-! ## Crops -/

/-- The first columns of an image. -/
def crop (image : Image) (width : Nat) (hwidth : width ≤ image.width) : Image where
  width := width
  height := image.height
  pixels := Array.ofFn fun i : Fin (width * image.height) =>
    image.pixel (i % width) (i / width)
      (Nat.lt_of_lt_of_le (Nat.mod_lt i (Nat.pos_of_mul_pos_right i.pos)) hwidth)
      (Nat.div_lt_of_lt_mul i.isLt)
  size_eq := Array.size_ofFn
  width_le := hwidth.trans image.width_le
  height_le := image.height_le

theorem pixel_crop (image : Image) {width x y : Nat} (hwidth : width ≤ image.width)
    (hx : x < width) (hy : y < image.height) :
    (image.crop width hwidth).pixel x y hx hy = image.pixel x y (hx.trans_le hwidth) hy := by
  simp only [pixel, crop, Array.getElem_ofFn, index_div hx, index_mod hx]

theorem sampleAt_crop (image : Image) {width y x : Nat} {scale : Binary64} {v : ℚ}
    (hvalue : scale.HasValue v) (hv : 0 < v) (hpos : 0 < width) (hwidth : width ≤ image.width)
    (hy : y < image.height) (hx : x < columnCount width scale) :
    image.sampleAt y (hpos.trans_le hwidth) hy scale x =
      (image.crop width hwidth).sampleAt y hpos hy scale x := by
  have hcolumn := sampledColumn_of_le hvalue hv hwidth image.width_le hx
  have hinside := sampledColumn_lt x scale hpos
  calc image.sampleAt y (hpos.trans_le hwidth) hy scale x
      = image.pixel (sampledColumn x width scale) y (hinside.trans_le hwidth) hy := by
        simp only [sampleAt, hcolumn]
    _ = (image.crop width hwidth).sampleAt y hpos hy scale x :=
        (image.pixel_crop hwidth hinside hy).symm

theorem rowRuns_crop (image : Image) {settings : Settings} (haccepted : settings.fault? = none)
    {width y : Nat} (hpos : 0 < width) (hwidth : width ≤ image.width) (hy : y < image.height) :
    (image.crop width hwidth).rowRuns settings y hpos hy =
      truncateRuns (columnCount width settings.scale)
        (image.rowRuns settings y (hpos.trans_le hwidth) hy) := by
  obtain ⟨v, hvalue⟩ := Settings.exists_hasValue_of_accepted haccepted
  obtain ⟨hleast, -⟩ := Settings.bounds_of_accepted haccepted hvalue
  have hv : 0 < v := by linarith
  have hmono := columnCount_mono hvalue hv hwidth image.width_le
  have hwhole := image.tiles_rowRuns settings y (hpos.trans_le hwidth) hy
  have hcut := (hwhole.truncateRuns (Nat.zero_le _) hmono).congr fun x _ hx =>
    image.sampleAt_crop hvalue hv hpos hwidth hy hx
  exact ((image.crop width hwidth).tiles_rowRuns settings y hpos hy).unique hcut

/-- Cropping on the right cuts the lines of an image off and changes nothing else. -/
theorem crop_truncates_rows (image : Image) {settings : Settings}
    (haccepted : settings.fault? = none) {width : Nat} (hpos : 1 ≤ width)
    (hwidth : width ≤ image.width) :
    columnCount width settings.scale ≤ columnCount image.width settings.scale ∧
    sampledColumns width settings.scale <+: sampledColumns image.width settings.scale ∧
    ∀ y, y < image.height → ∃ runs, image.runs settings y = .ok runs ∧
      (image.crop width hwidth).runs settings y =
        .ok (truncateRuns (columnCount width settings.scale) runs) := by
  obtain ⟨v, hvalue⟩ := Settings.exists_hasValue_of_accepted haccepted
  obtain ⟨hleast, -⟩ := Settings.bounds_of_accepted haccepted hvalue
  have hv : 0 < v := by linarith
  refine ⟨columnCount_mono hvalue hv hwidth image.width_le,
    sampledColumns_prefix hvalue hv hwidth image.width_le, ?_⟩
  intro y hy
  have hfilled : image.IsFilled := ⟨hpos.trans hwidth, Nat.zero_lt_of_lt hy⟩
  have hcropped : (image.crop width hwidth).IsFilled := ⟨hpos, hfilled.2⟩
  refine ⟨_, runs_eq_ok_iff.2 ⟨hfilled, hy, rfl⟩, runs_eq_ok_iff.2 ⟨hcropped, hy, ?_⟩⟩
  exact (image.rowRuns_crop haccepted hpos hwidth hy).symm

theorem crop_truncates_rows_redGreen :
    redGreen.runs {} 0 = .ok [⟨0, 2, ⟨255, 0, 0, 255⟩⟩, ⟨2, 1, ⟨0, 255, 0, 255⟩⟩] ∧
      (redGreen.crop 1 (by decide)).runs {} 0 = .ok [⟨0, 1, ⟨255, 0, 0, 255⟩⟩] := by
  have hruns : redGreen.runs {} 0 =
      .ok [⟨0, 2, ⟨255, 0, 0, 255⟩⟩, ⟨2, 1, ⟨0, 255, 0, 255⟩⟩] := by
    decide +kernel
  have haccepted : ({} : Settings).fault? = none := by decide
  have hcount : columnCount 1 ({} : Settings).scale = 1 := by decide +kernel
  obtain ⟨-, -, hrows⟩ := redGreen.crop_truncates_rows haccepted (Nat.le_refl 1) (by decide)
  obtain ⟨runs, hwhole, hcropped⟩ := hrows 0 (by decide)
  rw [hruns, Except.ok.injEq] at hwhole
  rw [hcount, ← hwhole] at hcropped
  exact ⟨hruns, hcropped⟩

end Image

end RasterText
