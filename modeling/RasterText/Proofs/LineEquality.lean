import RasterText.Proofs.Tilings

/-!
# What a line reveals

Two rows with equally many output positions have the same line exactly when every
position shows the same triple in both and the same neighbours agree in both.  So a line
tells nothing of the pixels that were not sampled, of other rows, or of the channels that
the layout leaves out, except where these split a run.
-/

namespace RasterText

/-- A line cannot tell the two rows apart. -/
structure LooksLike (settings : Settings) (count : Nat) (a b : Nat → Pixel) : Prop where
  triple : ∀ x < count, settings.layout.triple (a x) = settings.layout.triple (b x)
  agrees : ∀ x, x + 1 < count →
    (a x).agrees settings.alphaCounts (a (x + 1)) =
      (b x).agrees settings.alphaCounts (b (x + 1))

theorem looksLike_of_eq (settings : Settings) {count : Nat} {a b : Nat → Pixel}
    (h : ∀ x < count, a x = b x) : LooksLike settings count a b where
  triple := by
    intro x hx
    rw [h x hx]
  agrees := by
    intro x hx
    have hfirst := h x (by omega)
    have hsecond := h (x + 1) hx
    rw [hfirst, hsecond]

theorem looksLike_of_colors {settings : Settings} (halpha : settings.alphaCounts = false)
    {count : Nat} {a b : Nat → Pixel}
    (h : ∀ x < count, Layout.rgb.triple (a x) = Layout.rgb.triple (b x)) :
    LooksLike settings count a b where
  triple := by
    intro x hx
    exact settings.layout.triple_eq_of_agrees (Pixel.agrees_false_iff.2 (h x hx))
  agrees := by
    intro x hx
    have hfirst := h x (by omega)
    have hsecond := h (x + 1) hx
    rw [halpha, Bool.eq_iff_iff, Pixel.agrees_false_iff, Pixel.agrees_false_iff, hfirst, hsecond]

/-- With every channel shown and alpha left out, nothing but the shown colours counts. -/
theorem looksLike_iff_of_lossless {settings : Settings} (hlayout : settings.layout = .rgb)
    (halpha : settings.alphaCounts = false) {count : Nat} {a b : Nat → Pixel} :
    LooksLike settings count a b ↔
      ∀ x < count, Layout.rgb.triple (a x) = Layout.rgb.triple (b x) := by
  constructor
  · intro h x hx
    have htriple := h.triple x hx
    rwa [hlayout] at htriple
  · exact looksLike_of_colors halpha

theorem Tiles.flatMap_text {alphaCounts : Bool} {shown : Nat → Pixel} {start stop : Nat}
    {runs : List Run} (h : Tiles alphaCounts shown start stop runs) (settings : Settings) :
    runs.flatMap (Run.text settings) =
      (runs.map Run.extent).flatMap fun place => (Run.ofExtent shown place).text settings := by
  conv_lhs => rw [← h.map_ofExtent]
  exact List.flatMap_map ..

theorem lineOf_eq_of_looksLike {settings : Settings} {count : Nat} {a b : Nat → Pixel}
    {runs others : List Run} (h : LooksLike settings count a b)
    (ha : Tiles settings.alphaCounts a 0 count runs)
    (hb : Tiles settings.alphaCounts b 0 count others) :
    lineOf settings runs = lineOf settings others := by
  have hplaces : runs.map Run.extent = others.map Run.extent :=
    ha.map_extent_eq hb fun x _ hx => h.agrees x hx
  have htext : ∀ place ∈ others.map Run.extent,
      (Run.ofExtent a place).text settings = (Run.ofExtent b place).text settings := by
    intro place hplace
    obtain ⟨run, hrun, rfl⟩ := List.mem_map.1 hplace
    have hpos := (hb.fits run hrun).pos
    have hstop := hb.stop_le_of_mem hrun
    have hstart : run.start < count := by
      simp only [Run.stop] at hstop
      omega
    have htriple := h.triple run.start hstart
    simp only [Run.text, Run.ofExtent, Run.extent, token_eq, htriple]
  rw [lineOf, lineOf, ha.flatMap_text, hb.flatMap_text, hplaces, List.flatMap_congr htext]

/-- The reader finds the groups of a line, and with them its triples and its runs. -/
theorem looksLike_of_lineOf_eq {settings : Settings} {count : Nat} {a b : Nat → Pixel}
    (hpos : 0 < count)
    (h : lineOf settings (runsOf settings.alphaCounts ((List.range count).map a)) =
      lineOf settings (runsOf settings.alphaCounts ((List.range count).map b))) :
    LooksLike settings count a b := by
  have hne : ∀ shown : Nat → Pixel,
      sampleGroups settings.layout settings.alphaCounts ((List.range count).map shown) ≠ [] := by
    intro shown
    apply sampleGroups_ne_nil
    simp only [ne_eq, List.map_eq_nil_iff, List.range_eq_nil]
    omega
  have hgroups : sampleGroups settings.layout settings.alphaCounts ((List.range count).map a) =
      sampleGroups settings.layout settings.alphaCounts ((List.range count).map b) := by
    apply lineText_injective (hne a) (hne b)
    rw [← lineOf_append_newline, ← lineOf_append_newline, h]
  constructor
  · intro x hx
    have htriples := congrArg lineTriples hgroups
    rw [lineTriples_sampleGroups, lineTriples_sampleGroups, List.map_map, List.map_map] at htriples
    exact List.map_inj_left.1 htriples x (List.mem_range.2 hx)
  · intro x hx
    have hlengths := congrArg (List.map Group.length) hgroups
    rw [map_length_sampleGroups, map_length_sampleGroups] at hlengths
    have ha := tiles_runsOf settings.alphaCounts a count
    have hb := tiles_runsOf settings.alphaCounts b count
    exact ha.agrees_eq_of_map_length hb hlengths (Nat.zero_le x) hx

namespace Image

theorem rowLine_eq_iff {a b : Image} {settings : Settings} {y z : Nat} (ha : 0 < a.width)
    (hb : 0 < b.width) (hy : y < a.height) (hz : z < b.height) (hwidth : b.width = a.width)
    (hcolumns : 0 < columnCount a.width settings.scale) :
    a.rowLine settings y ha hy = b.rowLine settings z hb hz ↔
      LooksLike settings (columnCount a.width settings.scale)
        (a.sampleAt y ha hy settings.scale) (b.sampleAt z hb hz settings.scale) := by
  have hcount : columnCount b.width settings.scale = columnCount a.width settings.scale := by
    rw [hwidth]
  constructor
  · intro h
    apply looksLike_of_lineOf_eq hcolumns
    rw [← samples_eq_map_sampleAt, ← hcount, ← samples_eq_map_sampleAt]
    exact h
  · intro h
    have htiles := b.tiles_rowRuns settings z hb hz
    rw [hcount] at htiles
    exact lineOf_eq_of_looksLike h (a.tiles_rowRuns settings y ha hy) htiles

/-- Rows of images of one width have the same line exactly when they look alike at every
output position. -/
theorem renderRow_eq_iff_looksLike {a b : Image} {settings : Settings} {y z : Nat}
    (haccepted : settings.fault? = none) (hwidth : b.width = a.width)
    (hcolumns : 0 < columnCount a.width settings.scale) (hy : y < a.height)
    (hz : z < b.height) :
    ∃ (ha : 0 < a.width) (hb : 0 < b.width),
      (∃ line, a.renderRow settings y = .ok line) ∧
      (∃ line, b.renderRow settings z = .ok line) ∧
      (a.renderRow settings y = b.renderRow settings z ↔
        LooksLike settings (columnCount a.width settings.scale)
          (a.sampleAt y ha hy settings.scale) (b.sampleAt z hb hz settings.scale)) ∧
      ((∀ x < columnCount a.width settings.scale,
          a.sampleAt y ha hy settings.scale x = b.sampleAt z hb hz settings.scale x) →
        a.renderRow settings y = b.renderRow settings z) ∧
      (settings.layout = .rgb → settings.alphaCounts = false →
        (a.renderRow settings y = b.renderRow settings z ↔
          ∀ x < columnCount a.width settings.scale,
            Layout.rgb.triple (a.sampleAt y ha hy settings.scale x) =
              Layout.rgb.triple (b.sampleAt z hb hz settings.scale x))) := by
  have ha : 0 < a.width := by
    by_contra hnone
    have hzero : a.width = 0 := by omega
    rw [hzero, columnCount_zero] at hcolumns
    omega
  have hb : 0 < b.width := by omega
  have hfirst : a.renderRow settings y = .ok (String.ofList (a.rowLine settings y ha hy)) :=
    renderRow_eq_ok_iff.2 ⟨⟨haccepted, ⟨ha, by omega⟩, hcolumns.ne'⟩, hy, rfl⟩
  have hsecond : b.renderRow settings z = .ok (String.ofList (b.rowLine settings z hb hz)) :=
    renderRow_eq_ok_iff.2
      ⟨⟨haccepted, ⟨hb, by omega⟩, by rw [hwidth]; exact hcolumns.ne'⟩, hz, rfl⟩
  have hiff : a.renderRow settings y = b.renderRow settings z ↔
      LooksLike settings (columnCount a.width settings.scale)
        (a.sampleAt y ha hy settings.scale) (b.sampleAt z hb hz settings.scale) := by
    rw [hfirst, hsecond, Except.ok.injEq, String.ofList_inj]
    exact rowLine_eq_iff ha hb hy hz hwidth hcolumns
  refine ⟨ha, hb, ⟨_, hfirst⟩, ⟨_, hsecond⟩, hiff, ?_, ?_⟩
  · intro hequal
    exact hiff.2 (looksLike_of_eq settings hequal)
  · intro hlayout halpha
    exact hiff.trans (looksLike_iff_of_lossless hlayout halpha)

def tinted : Image :=
  redGreen.set 0 0 ⟨255, 0, 7, 1⟩

theorem renderRow_eq_iff_looksLike_tinted :
    Settings.fault? {} = none ∧ tinted.width = redGreen.width ∧
      0 < columnCount redGreen.width defaultScale ∧
      redGreen.renderRow {} 0 = tinted.renderRow {} 0 ∧
      redGreen.renderRow { layout := .rgb } 0 ≠ tinted.renderRow { layout := .rgb } 0 := by
  have hcount : columnCount redGreen.width defaultScale = 3 := by decide +kernel
  have hcolumns : 0 < columnCount redGreen.width defaultScale := by omega
  have hlooks : LooksLike {} (columnCount redGreen.width defaultScale)
      (redGreen.sampleAt 0 (by decide) (by decide) defaultScale)
      (tinted.sampleAt 0 (by decide) (by decide) defaultScale) := by
    rw [hcount]
    constructor
    · decide +kernel
    · intro x hx
      obtain rfl | rfl : x = 0 ∨ x = 1 := by omega
      · decide +kernel
      · decide +kernel
  have hblue : ¬ ∀ x < columnCount redGreen.width defaultScale,
      Layout.rgb.triple (redGreen.sampleAt 0 (by decide) (by decide) defaultScale x) =
        Layout.rgb.triple (tinted.sampleAt 0 (by decide) (by decide) defaultScale x) := by
    rw [hcount]
    decide +kernel
  refine ⟨by decide, rfl, hcolumns, ?_, ?_⟩
  · obtain ⟨_, _, -, -, hiff, -⟩ := renderRow_eq_iff_looksLike (a := redGreen) (b := tinted)
      (y := 0) (z := 0) (show Settings.fault? {} = none by decide) rfl hcolumns (by decide)
      (by decide)
    exact hiff.2 hlooks
  · obtain ⟨_, _, -, -, -, -, hcolors⟩ := renderRow_eq_iff_looksLike (a := redGreen)
      (b := tinted) (y := 0) (z := 0) (show Settings.fault? { layout := .rgb } = none by decide)
      rfl hcolumns (by decide) (by decide)
    exact fun hequal => hblue ((hcolors rfl rfl).1 hequal)

end Image

end RasterText
