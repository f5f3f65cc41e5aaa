import RasterText.Proofs.LineEquality
import RasterText.Proofs.RoundTrip

/-!
# Alpha only refines runs

A comparison that looks at alpha splits the runs of a row further and moves none of the
old boundaries: joining neighbours of one colour gives back the runs that leave alpha
out, and both lines show the same triples.  With alpha left out, no choice of alpha
changes a rendered image or the places of its runs.
-/

namespace RasterText

/-! ## Joining neighbours of one colour -/

def Run.join (run next : Run) : Run :=
  { run with length := run.length + next.length }

/-- The joined runs that end the row, when `current` is open and `runs` follow. -/
def mergeFrom (current : Run) : List Run → List Run
  | [] => [current]
  | run :: runs =>
    if current.color.agrees false run.color then mergeFrom (current.join run) runs
    else current :: mergeFrom run runs

/-- The runs with neighbours of one colour joined, from left to right. -/
def mergeRuns : List Run → List Run
  | [] => []
  | run :: runs => mergeFrom run runs

theorem Pixel.agrees_false_of_agrees {alphaCounts : Bool} {p q : Pixel}
    (h : p.agrees alphaCounts q = true) : p.agrees false q = true :=
  agrees_false_iff.2 (Layout.rgb.triple_eq_of_agrees h)

theorem Run.Fits.without_alpha {alphaCounts : Bool} {shown : Nat → Pixel} {run : Run}
    (h : run.Fits alphaCounts shown) : run.Fits false shown where
  pos := h.pos
  color := h.color
  agrees := by
    intro x hfrom hto
    exact Pixel.agrees_false_of_agrees (h.agrees x hfrom hto)

theorem Run.Fits.join {shown : Nat → Pixel} {run next : Run} (h : run.Fits false shown)
    (hnext : next.Fits false shown) (hstart : next.start = run.stop)
    (hagrees : run.color.agrees false next.color = true) :
    (run.join next).Fits false shown where
  pos := Nat.le_add_right_of_le h.pos
  color := h.color
  agrees := by
    intro x hfrom hto
    by_cases hx : x < run.stop
    · exact h.agrees x hfrom hx
    · have hinside : x < next.stop := by
        simp only [Run.stop, Run.join] at hto hstart ⊢
        omega
      have hlater := hnext.agrees x (by omega) hinside
      exact Pixel.agrees_trans hlater (Pixel.agrees_symm hagrees)

theorem color_of_head?_mergeFrom {current run : Run} {runs : List Run}
    (h : run ∈ (mergeFrom current runs).head?) : run.color = current.color := by
  induction runs generalizing current with
  | nil =>
      rw [mergeFrom, List.head?_cons, Option.mem_some_iff] at h
      rw [h]
  | cons next runs ih =>
      rw [mergeFrom] at h
      split at h
      · have hcolor := ih h
        exact hcolor
      · rw [List.head?_cons, Option.mem_some_iff] at h
        rw [h]

theorem tiles_mergeFrom {alphaCounts : Bool} {shown : Nat → Pixel} {stop : Nat}
    {current : Run} {runs : List Run} (h : current.Fits false shown)
    (hruns : Tiles alphaCounts shown current.stop stop runs) :
    Tiles false shown current.start stop (mergeFrom current runs) := by
  induction runs generalizing current with
  | nil =>
      rw [mergeFrom, tiles_cons_iff]
      exact ⟨rfl, h, by simp, tiles_nil_iff.2 (tiles_nil_iff.1 hruns)⟩
  | cons run runs ih =>
      obtain ⟨hstart, hfits, -, hrest⟩ := tiles_cons_iff.1 hruns
      have hrun : run.Fits false shown := hfits.without_alpha
      rw [mergeFrom]
      by_cases hagrees : current.color.agrees false run.color = true
      · rw [if_pos hagrees]
        have hjoined : (current.join run).stop = run.stop := by
          simp only [Run.stop, Run.join] at hstart ⊢
          omega
        apply ih (h.join hrun hstart hagrees)
        rw [hjoined]
        exact hrest
      · rw [if_neg hagrees]
        refine tiles_cons_iff.2 ⟨rfl, h, ?_, ?_⟩
        · intro next hnext
          rw [color_of_head?_mergeFrom hnext]
          simpa using hagrees
        · rw [← hstart]
          exact ih hrun hrest

theorem Tiles.mergeRuns {alphaCounts : Bool} {shown : Nat → Pixel} {start stop : Nat}
    {runs : List Run} (h : Tiles alphaCounts shown start stop runs) :
    Tiles false shown start stop (mergeRuns runs) := by
  cases runs with
  | nil => exact tiles_nil_iff.2 (tiles_nil_iff.1 h)
  | cons run runs =>
      obtain ⟨hstart, hfits, -, hrest⟩ := tiles_cons_iff.1 h
      rw [← hstart]
      exact tiles_mergeFrom hfits.without_alpha hrest

theorem sublist_map_start_mergeFrom (current : Run) (runs : List Run) :
    ((mergeFrom current runs).map Run.start).Sublist ((current :: runs).map Run.start) := by
  induction runs generalizing current with
  | nil => exact List.Sublist.refl _
  | cons run runs ih =>
      rw [mergeFrom]
      split
      · have hjoined := ih (current.join run)
        exact hjoined.trans ((List.sublist_cons_self run.start _).cons_cons current.start)
      · exact (ih run).cons_cons current.start

theorem sublist_map_start_mergeRuns (runs : List Run) :
    ((mergeRuns runs).map Run.start).Sublist (runs.map Run.start) := by
  cases runs with
  | nil => exact List.Sublist.refl _
  | cons run runs => exact sublist_map_start_mergeFrom run runs

namespace Image

/-! ## Other alpha -/

/-- The image with other alpha; `alpha` chooses it for each pixel, counted row by row. -/
def withAlpha (image : Image) (alpha : Nat → UInt8) : Image :=
  { image with
    pixels := image.pixels.mapIdx fun i color => { color with alpha := alpha i }
    size_eq := by rw [Array.size_mapIdx, image.size_eq] }

theorem triple_pixel_withAlpha (image : Image) (alpha : Nat → UInt8) {x y : Nat}
    (hx : x < image.width) (hy : y < image.height) :
    Layout.rgb.triple ((image.withAlpha alpha).pixel x y hx hy) =
      Layout.rgb.triple (image.pixel x y hx hy) := by
  simp [pixel, withAlpha, Layout.triple]

theorem looksLike_withAlpha (image : Image) (alpha : Nat → UInt8) {settings : Settings}
    (halpha : settings.alphaCounts = false) {y : Nat} (hwidth : 0 < image.width)
    (hy : y < image.height) :
    LooksLike settings (columnCount image.width settings.scale)
      ((image.withAlpha alpha).sampleAt y hwidth hy settings.scale)
      (image.sampleAt y hwidth hy settings.scale) := by
  apply looksLike_of_colors halpha
  intro x _
  exact image.triple_pixel_withAlpha alpha (sampledColumn_lt x settings.scale hwidth) hy

theorem rowLine_withAlpha (image : Image) (alpha : Nat → UInt8) {settings : Settings}
    (halpha : settings.alphaCounts = false) {y : Nat} (hwidth : 0 < image.width)
    (hy : y < image.height) :
    (image.withAlpha alpha).rowLine settings y hwidth hy = image.rowLine settings y hwidth hy :=
  lineOf_eq_of_looksLike (image.looksLike_withAlpha alpha halpha hwidth hy)
    ((image.withAlpha alpha).tiles_rowRuns settings y hwidth hy)
    (image.tiles_rowRuns settings y hwidth hy)

theorem map_extent_rowRuns_withAlpha (image : Image) (alpha : Nat → UInt8)
    {settings : Settings} (halpha : settings.alphaCounts = false) {y : Nat}
    (hwidth : 0 < image.width) (hy : y < image.height) :
    ((image.withAlpha alpha).rowRuns settings y hwidth hy).map Run.extent =
      (image.rowRuns settings y hwidth hy).map Run.extent := by
  have hlooks := image.looksLike_withAlpha alpha halpha hwidth hy
  apply ((image.withAlpha alpha).tiles_rowRuns settings y hwidth hy).map_extent_eq
    (image.tiles_rowRuns settings y hwidth hy)
  intro x _ hx
  exact hlooks.agrees x hx

theorem render_withAlpha (image : Image) (alpha : Nat → UInt8) {settings : Settings}
    (halpha : settings.alphaCounts = false) :
    (image.withAlpha alpha).render settings = image.render settings := by
  unfold render
  cases settings.fault? with
  | some fault => rfl
  | none =>
      refine dite_congr rfl (fun hfilled => ?_) fun _ => rfl
      refine if_congr Iff.rfl rfl ?_
      have hlines : ∀ y : Fin image.height,
          String.ofList ((image.withAlpha alpha).rowLine settings y hfilled.1 y.isLt) =
            String.ofList (image.rowLine settings y hfilled.1 y.isLt) := by
        intro y
        rw [image.rowLine_withAlpha alpha halpha hfilled.1 y.isLt]
      exact congrArg Except.ok (congrArg List.ofFn (funext hlines))

theorem map_extent_runs_withAlpha (image : Image) (alpha : Nat → UInt8)
    {settings : Settings} (halpha : settings.alphaCounts = false) (y : Nat) :
    ((image.withAlpha alpha).runs settings y).map (List.map Run.extent) =
      (image.runs settings y).map (List.map Run.extent) := by
  unfold Image.runs
  rw [apply_dite (Except.map _), apply_dite (Except.map _)]
  refine dite_congr rfl (fun hfilled => ?_) fun _ => rfl
  rw [apply_dite (Except.map _), apply_dite (Except.map _)]
  refine dite_congr rfl (fun hy => ?_) fun _ => rfl
  exact congrArg Except.ok (image.map_extent_rowRuns_withAlpha alpha halpha hfilled.1 hy)

/-! ## Both comparisons -/

theorem mergeRuns_rowRuns (image : Image) (settings : Settings) (y : Nat)
    (hwidth : 0 < image.width) (hy : y < image.height) :
    mergeRuns (image.rowRuns { settings with alphaCounts := true } y hwidth hy) =
      image.rowRuns { settings with alphaCounts := false } y hwidth hy := by
  have hfine := image.tiles_rowRuns { settings with alphaCounts := true } y hwidth hy
  have hcoarse := image.tiles_rowRuns { settings with alphaCounts := false } y hwidth hy
  exact hfine.mergeRuns.unique hcoarse

/-- Looking at alpha refines the runs of a row and nothing else; leaving it out, alpha is
never seen. -/
theorem alpha_refines_runs (image : Image) (settings : Settings) :
    (∀ y, image.IsFilled → ∀ hy : y < image.height,
      (∃ fine coarse, image.runs { settings with alphaCounts := true } y = .ok fine ∧
        image.runs { settings with alphaCounts := false } y = .ok coarse ∧
        mergeRuns fine = coarse ∧
        (coarse.map Run.start).Sublist (fine.map Run.start)) ∧
      (settings.fault? = none → columnCount image.width settings.scale ≠ 0 →
        ∃ line line' row, image.renderRow { settings with alphaCounts := true } y = .ok line ∧
          image.renderRow { settings with alphaCounts := false } y = .ok line' ∧
          decode settings.encoding (line.toList ++ ['\n']) = some [row] ∧
          decode settings.encoding (line'.toList ++ ['\n']) = some [row] ∧
          row.length = columnCount image.width settings.scale ∧
          ∀ x, x < columnCount image.width settings.scale →
            ∃ hx : sampledColumn x image.width settings.scale < image.width,
              row[x]? = some (settings.layout.triple
                (image.pixel (sampledColumn x image.width settings.scale) y hx hy)))) ∧
    ∀ alpha : Nat → UInt8,
      (image.withAlpha alpha).render { settings with alphaCounts := false } =
        image.render { settings with alphaCounts := false } ∧
      ∀ y, ((image.withAlpha alpha).runs { settings with alphaCounts := false } y).map
          (List.map Run.extent) =
        (image.runs { settings with alphaCounts := false } y).map (List.map Run.extent) := by
  constructor
  · intro y hfilled hy
    refine ⟨?_, ?_⟩
    · have hmerge := image.mergeRuns_rowRuns settings y hfilled.1 hy
      refine ⟨_, _, runs_eq_ok_iff.2 ⟨hfilled, hy, rfl⟩, runs_eq_ok_iff.2 ⟨hfilled, hy, rfl⟩,
        hmerge, ?_⟩
      rw [← hmerge]
      exact sublist_map_start_mergeRuns _
    · intro haccepted hcolumns
      have hrenders : ∀ alphaCounts, image.Renders { settings with alphaCounts } :=
        fun _ => ⟨haccepted, hfilled, hcolumns⟩
      obtain ⟨line, hline, hdecode⟩ := decode_renderRow (hrenders true) hy
      obtain ⟨line', hline', hdecode'⟩ := decode_renderRow (hrenders false) hy
      refine ⟨line, line', _, hline, hline', hdecode, hdecode', ?_, ?_⟩
      · rw [List.length_map, length_samples]
      · intro x hx
        exact image.getElem?_map_samples settings hx hfilled.1 hy
  · intro alpha
    exact ⟨image.render_withAlpha alpha rfl, image.map_extent_runs_withAlpha alpha rfl⟩

def veiled : Image :=
  redGreen.set 1 0 ⟨255, 0, 0, 0⟩

theorem alpha_refines_runs_veiled :
    veiled.IsFilled ∧
      veiled.runs { alphaCounts := true } 0 =
        .ok [⟨0, 2, ⟨255, 0, 0, 255⟩⟩, ⟨2, 1, ⟨255, 0, 0, 0⟩⟩] ∧
      veiled.runs {} 0 = .ok [⟨0, 3, ⟨255, 0, 0, 255⟩⟩] ∧
      veiled.renderRow { alphaCounts := true } 0 =
        .ok "\\x1cffff00  \\x1cffff00 \\x19" ∧
      veiled.renderRow {} 0 = .ok "\\x1cffff00   \\x19" ∧
      decode .escaped "\\x1cffff00  \\x1cffff00 \\x19\n".toList =
        some [List.replicate 3 (255, 255, 0)] ∧
      decode .escaped "\\x1cffff00   \\x19\n".toList =
        some [List.replicate 3 (255, 255, 0)] ∧
      (veiled.withAlpha fun _ => 7).render {} = veiled.render {} := by
  have hfilled : veiled.IsFilled := by decide
  have hfine : veiled.runs { alphaCounts := true } 0 =
      .ok [⟨0, 2, ⟨255, 0, 0, 255⟩⟩, ⟨2, 1, ⟨255, 0, 0, 0⟩⟩] := by
    decide +kernel
  have hline : veiled.renderRow { alphaCounts := true } 0 =
      .ok "\\x1cffff00  \\x1cffff00 \\x19" := by
    decide +kernel
  have hline' : veiled.renderRow {} 0 = .ok "\\x1cffff00   \\x19" := by
    decide +kernel
  obtain ⟨hrefines, halpha⟩ := alpha_refines_runs veiled {}
  obtain ⟨⟨fine, coarse, hfine', hcoarse, hmerge, -⟩, hlines⟩ := hrefines 0 hfilled (by decide)
  obtain ⟨_, _, row, hfineLine, hcoarseLine, hdecode, hdecode', hlength, hshown⟩ :=
    hlines (by decide +kernel) (by decide +kernel)
  obtain rfl := Except.ok.inj (hline.symm.trans hfineLine)
  obtain rfl := Except.ok.inj (hline'.symm.trans hcoarseLine)
  obtain rfl := Except.ok.inj (hfine.symm.trans hfine')
  have hred : ∀ x (hx : x < veiled.width),
      Layout.rrg.triple (veiled.pixel x 0 hx (by decide)) = (255, 255, 0) := by
    decide
  have hcount : columnCount veiled.width defaultScale = 3 := by decide +kernel
  have hrow : row = List.replicate 3 (255, 255, 0) := by
    refine List.eq_replicate_iff.2 ⟨hlength.trans hcount, ?_⟩
    intro triple hmem
    obtain ⟨x, hx, rfl⟩ := List.getElem_of_mem hmem
    obtain ⟨hcolumn, hshows⟩ := hshown x (hlength ▸ hx)
    rw [List.getElem?_eq_getElem hx, Option.some_inj] at hshows
    exact hshows.trans (hred _ hcolumn)
  refine ⟨hfilled, hfine, ?_, hline, hline', hrow ▸ hdecode, hrow ▸ hdecode',
    (halpha fun _ => 7).1⟩
  rw [hcoarse, ← hmerge]
  rfl

end Image

end RasterText
