import RasterText.Proofs.Rendering

/-!
# Runs tile a row

A row of samples is a function from output positions to pixels.  Its runs tile the
positions from the first to the last: they lie one after the other, every position
agrees with the colour of its run, and neighbours do not agree.  A row has one tiling
only, and where its runs begin and end depends on nothing but which neighbouring
positions agree.
-/

namespace RasterText

/-- The run shows a stretch of the row: it has the colour of its first position, alpha
included, and all its positions agree with that colour. -/
structure Run.Fits (alphaCounts : Bool) (shown : Nat → Pixel) (run : Run) : Prop where
  pos : 1 ≤ run.length
  color : run.color = shown run.start
  agrees : ∀ x, run.start ≤ x → x < run.stop → (shown x).agrees alphaCounts run.color = true

/-- The runs lie one after the other from `start` up to `stop`, and neighbours do not
agree in colour. -/
structure Tiles (alphaCounts : Bool) (shown : Nat → Pixel) (start stop : Nat)
    (runs : List Run) : Prop where
  first : ∀ run ∈ runs.head?, run.start = start
  next : runs.IsChain fun a b => b.start = a.stop
  total : start + totalLength runs = stop
  fits : ∀ run ∈ runs, run.Fits alphaCounts shown
  differ : runs.IsChain fun a b => a.color.agrees alphaCounts b.color = false

namespace Run

def extent (run : Run) : Nat × Nat :=
  (run.start, run.length)

def ofExtent (shown : Nat → Pixel) (place : Nat × Nat) : Run :=
  ⟨place.1, place.2, shown place.1⟩

/-! ## One run -/

theorem fits_one (alphaCounts : Bool) (shown : Nat → Pixel) (x : Nat) :
    Fits alphaCounts shown ⟨x, 1, shown x⟩ where
  pos := Nat.le_refl 1
  color := rfl
  agrees := by
    intro z hfrom hto
    have hz : z = x := by
      simp only [stop] at hfrom hto
      omega
    rw [hz]
    exact Pixel.agrees_self alphaCounts (shown x)

theorem Fits.grow {alphaCounts : Bool} {shown : Nat → Pixel} {run : Run}
    (h : run.Fits alphaCounts shown)
    (hnext : run.color.agrees alphaCounts (shown run.stop) = true) :
    run.grow.Fits alphaCounts shown where
  pos := Nat.succ_pos run.length
  color := h.color
  agrees := by
    intro x hfrom hto
    by_cases hx : x < run.stop
    · exact h.agrees x hfrom hx
    · have hlast : x = run.stop := by
        simp only [stop, Run.grow] at hto hx ⊢
        omega
      rw [hlast]
      exact Pixel.agrees_symm hnext

theorem Fits.ofExtent_extent {alphaCounts : Bool} {shown : Nat → Pixel} {run : Run}
    (h : run.Fits alphaCounts shown) : ofExtent shown run.extent = run := by
  simp only [ofExtent, extent, ← h.color]

theorem Fits.agrees_succ {alphaCounts : Bool} {shown : Nat → Pixel} {run : Run}
    (h : run.Fits alphaCounts shown) {x : Nat} (hfrom : run.start ≤ x)
    (hto : x + 1 < run.stop) :
    (shown x).agrees alphaCounts (shown (x + 1)) = true := by
  have hfirst := h.agrees x hfrom (by omega)
  have hsecond := h.agrees (x + 1) (by omega) hto
  exact Pixel.agrees_trans hfirst (Pixel.agrees_symm hsecond)

end Run

/-! ## Tilings run by run -/

theorem tiles_nil_iff {alphaCounts : Bool} {shown : Nat → Pixel} {start stop : Nat} :
    Tiles alphaCounts shown start stop [] ↔ start = stop := by
  constructor
  · intro h
    exact h.total
  · intro h
    constructor <;> simp [totalLength, h]

theorem tiles_cons_iff {alphaCounts : Bool} {shown : Nat → Pixel} {start stop : Nat}
    {run : Run} {runs : List Run} :
    Tiles alphaCounts shown start stop (run :: runs) ↔
      run.start = start ∧ run.Fits alphaCounts shown ∧
        (∀ next ∈ runs.head?, run.color.agrees alphaCounts next.color = false) ∧
        Tiles alphaCounts shown run.stop stop runs := by
  constructor
  · intro h
    have hstart : run.start = start := h.first run rfl
    have hnext := List.isChain_cons.1 h.next
    have hdiffer := List.isChain_cons.1 h.differ
    have htotal := h.total
    refine ⟨hstart, h.fits run List.mem_cons_self, hdiffer.1, hnext.1, hnext.2, ?_, ?_, hdiffer.2⟩
    · simp only [totalLength, Run.stop] at htotal ⊢
      omega
    · intro other hother
      exact h.fits other (List.mem_cons_of_mem run hother)
  · rintro ⟨rfl, hfits, hdiffer, h⟩
    have htotal := h.total
    refine ⟨?_, List.isChain_cons.2 ⟨h.first, h.next⟩, ?_, ?_,
      List.isChain_cons.2 ⟨hdiffer, h.differ⟩⟩
    · intro other hother
      rw [List.head?_cons, Option.mem_some_iff] at hother
      rw [hother]
    · simp only [totalLength, Run.stop] at htotal ⊢
      omega
    · intro other hother
      rcases List.mem_cons.1 hother with rfl | hother
      · exact hfits
      · exact h.fits other hother

namespace Tiles

variable {alphaCounts otherCounts : Bool} {shown others : Nat → Pixel} {start stop : Nat}
  {run other : Run} {runs more : List Run}

theorem start_le_stop (h : Tiles alphaCounts shown start stop runs) : start ≤ stop := by
  have htotal := h.total
  omega

theorem eq_nil_iff (h : Tiles alphaCounts shown start stop runs) :
    runs = [] ↔ start = stop := by
  cases runs with
  | nil => simpa using tiles_nil_iff.1 h
  | cons run runs =>
      have htotal := h.total
      have hpos := (h.fits run List.mem_cons_self).pos
      simp only [totalLength] at htotal
      simp only [reduceCtorEq, false_iff]
      omega

theorem stop_le_of_mem (h : Tiles alphaCounts shown start stop runs) (hrun : run ∈ runs) :
    run.stop ≤ stop := by
  induction runs generalizing start with
  | nil => simp at hrun
  | cons head runs ih =>
      obtain ⟨-, -, -, hrest⟩ := tiles_cons_iff.1 h
      rcases List.mem_cons.1 hrun with rfl | hrun
      · exact hrest.start_le_stop
      · exact ih hrest hrun

/-- A run is over where the next position does not agree any more. -/
theorem agrees_succ_eq_false (h : Tiles alphaCounts shown start stop (run :: runs)) {x : Nat}
    (hx : x + 1 = run.stop) (hstop : run.stop < stop) :
    (shown x).agrees alphaCounts (shown (x + 1)) = false := by
  obtain ⟨-, hfits, hdiffer, hrest⟩ := tiles_cons_iff.1 h
  cases runs with
  | nil =>
      have := tiles_nil_iff.1 hrest
      omega
  | cons next runs =>
      obtain ⟨hstart, hnext, -, -⟩ := tiles_cons_iff.1 hrest
      have hcolor : next.color = shown (x + 1) := by rw [hnext.color, hstart, hx]
      have hpos := hfits.pos
      have hlast : (shown x).agrees alphaCounts run.color = true := by
        apply hfits.agrees x
        · simp only [Run.stop] at hx
          omega
        · omega
      rw [← hcolor, ← Bool.not_eq_true]
      intro hagrees
      have hboth := Pixel.agrees_trans (Pixel.agrees_symm hlast) hagrees
      rw [hdiffer next rfl] at hboth
      contradiction

/-! ## Two tilings -/

theorem length_le_of_agrees_eq (h : Tiles alphaCounts shown start stop (run :: runs))
    (h' : Tiles otherCounts others start stop (other :: more))
    (hsame : ∀ x, start ≤ x → x + 1 < stop →
      (shown x).agrees alphaCounts (shown (x + 1)) =
        (others x).agrees otherCounts (others (x + 1))) :
    other.length ≤ run.length := by
  obtain ⟨hstart, hfits, -, -⟩ := tiles_cons_iff.1 h
  obtain ⟨hstart', hfits', -, hrest'⟩ := tiles_cons_iff.1 h'
  by_contra hlonger
  -- The shorter run ends at `x`, inside the longer one.
  obtain ⟨x, hx⟩ : ∃ x, x + 1 = run.stop := by
    have hpos := hfits.pos
    exact ⟨run.stop - 1, by simp only [Run.stop]; omega⟩
  have hinside : x + 1 < other.stop := by
    simp only [Run.stop] at hx ⊢
    omega
  have hfrom : start ≤ x := by
    have hpos := hfits.pos
    simp only [Run.stop] at hx
    omega
  have hbefore : x + 1 < stop := by
    have := hrest'.start_le_stop
    omega
  have hends := h.agrees_succ_eq_false hx (by omega)
  have hgoes := hfits'.agrees_succ (by omega) hinside
  rw [hsame x hfrom hbefore, hgoes] at hends
  contradiction

/-- Rows in which the same neighbours agree have runs in the same places. -/
theorem map_extent_eq (h : Tiles alphaCounts shown start stop runs)
    (h' : Tiles otherCounts others start stop more)
    (hsame : ∀ x, start ≤ x → x + 1 < stop →
      (shown x).agrees alphaCounts (shown (x + 1)) =
        (others x).agrees otherCounts (others (x + 1))) :
    runs.map Run.extent = more.map Run.extent := by
  induction runs generalizing start more with
  | nil =>
      have hmore : more = [] := h'.eq_nil_iff.2 (tiles_nil_iff.1 h)
      rw [hmore]
  | cons run runs ih =>
      cases more with
      | nil =>
          have hnil := h.eq_nil_iff.2 (tiles_nil_iff.1 h')
          contradiction
      | cons other more =>
          have hlength : run.length = other.length := by
            apply Nat.le_antisymm
            · exact h'.length_le_of_agrees_eq h fun x hfrom hto => (hsame x hfrom hto).symm
            · exact h.length_le_of_agrees_eq h' hsame
          obtain ⟨hstart, hfits, -, hrest⟩ := tiles_cons_iff.1 h
          obtain ⟨hstart', -, -, hrest'⟩ := tiles_cons_iff.1 h'
          have hstop : other.stop = run.stop := by
            rw [Run.stop, Run.stop, hstart, hstart', hlength]
          have hfurther : start ≤ run.stop := by
            simp only [Run.stop]
            omega
          rw [hstop] at hrest'
          rw [List.map_cons, List.map_cons, Run.extent, Run.extent, hstart, hstart', hlength,
            ih hrest hrest' fun x hfrom hto => hsame x (by omega) hto]

/-- Runs in the same places come from rows in which the same neighbours agree. -/
theorem agrees_eq_of_map_length (h : Tiles alphaCounts shown start stop runs)
    (h' : Tiles otherCounts others start stop more)
    (hlengths : runs.map Run.length = more.map Run.length) {x : Nat} (hfrom : start ≤ x)
    (hto : x + 1 < stop) :
    (shown x).agrees alphaCounts (shown (x + 1)) =
      (others x).agrees otherCounts (others (x + 1)) := by
  induction runs generalizing start more with
  | nil =>
      have := tiles_nil_iff.1 h
      omega
  | cons run runs ih =>
      cases more with
      | nil => simp at hlengths
      | cons other more =>
          obtain ⟨hlength, hlengths⟩ := List.cons.inj hlengths
          obtain ⟨hstart, hfits, -, hrest⟩ := tiles_cons_iff.1 h
          obtain ⟨hstart', hfits', -, hrest'⟩ := tiles_cons_iff.1 h'
          have hstop : other.stop = run.stop := by
            rw [Run.stop, Run.stop, hstart, hstart', hlength]
          rcases Nat.lt_trichotomy (x + 1) run.stop with hinside | hend | hlater
          · rw [hfits.agrees_succ (by omega) hinside, hfits'.agrees_succ (by omega) (by omega)]
          · rw [h.agrees_succ_eq_false hend (by omega),
              h'.agrees_succ_eq_false (by omega) (by omega)]
          · rw [hstop] at hrest'
            exact ih hrest hrest' hlengths (by omega)

theorem map_ofExtent (h : Tiles alphaCounts shown start stop runs) :
    (runs.map Run.extent).map (Run.ofExtent shown) = runs := by
  have hrun : ∀ run ∈ runs, (Run.ofExtent shown ∘ Run.extent) run = id run := by
    intro run hrun
    exact (h.fits run hrun).ofExtent_extent
  rw [List.map_map, List.map_congr_left hrun, List.map_id]

/-- A row has one tiling. -/
theorem unique (h : Tiles alphaCounts shown start stop runs)
    (h' : Tiles alphaCounts shown start stop more) : runs = more := by
  have hextents := h.map_extent_eq h' fun x _ _ => rfl
  rw [← h.map_ofExtent, ← h'.map_ofExtent, hextents]

end Tiles

/-! ## The runs of a row -/

/-- The invariant of the pass over a row: the open run fits, and what follows it tiles
the rest. -/
theorem tiles_runsFrom {alphaCounts : Bool} {shown : Nat → Pixel} {current : Run}
    (h : current.Fits alphaCounts shown) (count : Nat) :
    Tiles alphaCounts shown current.start (current.stop + count)
      (runsFrom alphaCounts current ((List.range' current.stop count).map shown)) := by
  induction count generalizing current with
  | zero =>
      rw [List.range'_zero, List.map_nil, runsFrom, tiles_cons_iff]
      exact ⟨rfl, h, by simp, tiles_nil_iff.2 rfl⟩
  | succ count ih =>
      have hchain := isChain_runsFrom alphaCounts current
        ((List.range' current.stop (count + 1)).map shown)
      rw [List.range'_succ, List.map_cons, runsFrom] at hchain ⊢
      rw [show current.stop + (count + 1) = current.stop + 1 + count by omega]
      by_cases hagrees : current.color.agrees alphaCounts (shown current.stop) = true
      · rw [if_pos hagrees]
        exact ih (h.grow hagrees)
      · rw [if_neg hagrees] at hchain ⊢
        have hopened := Run.fits_one alphaCounts shown current.stop
        exact tiles_cons_iff.2 ⟨rfl, h, (List.isChain_cons.1 hchain).1, ih hopened⟩

theorem tiles_runsOf (alphaCounts : Bool) (shown : Nat → Pixel) (count : Nat) :
    Tiles alphaCounts shown 0 count
      (runsOf alphaCounts ((List.range count).map shown)) := by
  cases count with
  | zero => exact tiles_nil_iff.2 rfl
  | succ count =>
      have htiles := tiles_runsFrom (Run.fits_one alphaCounts shown 0) count
      rw [List.range_eq_range', List.range'_succ, List.map_cons, runsOf]
      rw [show count + 1 = 1 + count by omega]
      exact htiles

namespace Image

def sampleAt (image : Image) (y : Nat) (hwidth : 0 < image.width) (hy : y < image.height)
    (scale : Binary64) (x : Nat) : Pixel :=
  image.pixel (sampledColumn x image.width scale) y (sampledColumn_lt x scale hwidth) hy

theorem samples_eq_map_sampleAt (image : Image) (scale : Binary64) (y : Nat)
    (hwidth : 0 < image.width) (hy : y < image.height) :
    image.samples scale y hwidth hy =
      (List.range (columnCount image.width scale)).map (image.sampleAt y hwidth hy scale) := rfl

theorem tiles_rowRuns (image : Image) (settings : Settings) (y : Nat)
    (hwidth : 0 < image.width) (hy : y < image.height) :
    Tiles settings.alphaCounts (image.sampleAt y hwidth hy settings.scale) 0
      (columnCount image.width settings.scale) (image.rowRuns settings y hwidth hy) := by
  rw [rowRuns, samples_eq_map_sampleAt]
  exact tiles_runsOf ..

/-- Whatever the scale, the runs of a row are its one tiling.  Every pixel they look at
lies in the row, and no position of theirs exceeds the limit of image extents. -/
theorem runs_unique_tiling (image : Image) (settings : Settings) {y : Nat}
    (hfilled : image.IsFilled) (hy : y < image.height) :
    (∀ x < columnCount image.width settings.scale,
      sampledColumn x image.width settings.scale < image.width) ∧
    ∃ runs, image.runs settings y = .ok runs ∧
      Tiles settings.alphaCounts (image.sampleAt y hfilled.1 hy settings.scale) 0
        (columnCount image.width settings.scale) runs ∧
      (runs = [] ↔ columnCount image.width settings.scale = 0) ∧
      (∀ run ∈ runs, run.stop ≤ extentLimit) ∧
      ∀ others, Tiles settings.alphaCounts (image.sampleAt y hfilled.1 hy settings.scale) 0
        (columnCount image.width settings.scale) others → others = runs := by
  have htiles := image.tiles_rowRuns settings y hfilled.1 hy
  refine ⟨fun x _ => sampledColumn_lt x settings.scale hfilled.1, _,
    runs_eq_ok_iff.2 ⟨hfilled, hy, rfl⟩, htiles, ?_, ?_, ?_⟩
  · rw [htiles.eq_nil_iff]
    exact eq_comm
  · intro run hrun
    have hlimit := columnCount_le image.width settings.scale
    exact (htiles.stop_le_of_mem hrun).trans hlimit
  · intro others hothers
    exact hothers.unique htiles

theorem runs_unique_tiling_redGreen :
    redGreen.IsFilled ∧
      redGreen.runs {} 0 = .ok [⟨0, 2, ⟨255, 0, 0, 255⟩⟩, ⟨2, 1, ⟨0, 255, 0, 255⟩⟩] ∧
      (∀ runs, Tiles false (redGreen.sampleAt 0 (by decide) (by decide) defaultScale) 0 3 runs →
        runs = [⟨0, 2, ⟨255, 0, 0, 255⟩⟩, ⟨2, 1, ⟨0, 255, 0, 255⟩⟩]) ∧
      ∃ runs, redGreen.runs { scale := .infinite false } 0 = .ok runs ∧ runs ≠ [] := by
  have hfilled : redGreen.IsFilled := by decide
  have hruns : redGreen.runs {} 0 =
      .ok [⟨0, 2, ⟨255, 0, 0, 255⟩⟩, ⟨2, 1, ⟨0, 255, 0, 255⟩⟩] := by
    decide +kernel
  refine ⟨hfilled, hruns, ?_, ?_⟩
  · obtain ⟨-, runs, hok, -, -, -, honly⟩ :=
      redGreen.runs_unique_tiling {} hfilled (show 0 < redGreen.height by decide)
    have hcount : columnCount redGreen.width defaultScale = 3 := by decide +kernel
    rw [hruns, Except.ok.injEq] at hok
    rw [hcount, ← hok] at honly
    exact honly
  · obtain ⟨-, runs, hok, -, hnil, -⟩ := redGreen.runs_unique_tiling { scale := .infinite false }
      hfilled (show 0 < redGreen.height by decide)
    refine ⟨runs, hok, ?_⟩
    rw [ne_eq, hnil]
    decide

end Image

end RasterText
