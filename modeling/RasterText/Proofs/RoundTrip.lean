import RasterText.Proofs.Rendering

/-!
# Decoding undoes rendering

The text of a rendered image spells one page: a line for each row, and in it a group
for each run of the row.  Reading it back gives, at every output position, the triple
of the pixel that was sampled there.
-/

namespace RasterText.Image

theorem row_lt (image : Image) (y : Fin image.height) : (y : Nat) < image.height := y.isLt

theorem column_lt (image : Image) (x : Fin image.width) : (x : Nat) < image.width := x.isLt

def page (image : Image) (settings : Settings) (hwidth : 0 < image.width) :
    List (List Group) :=
  List.ofFn fun y : Fin image.height =>
    sampleGroups settings.layout settings.alphaCounts
      (image.samples settings.scale y hwidth (image.row_lt y))

def shownRows (image : Image) (settings : Settings) (hwidth : 0 < image.width) :
    List (List Triple) :=
  List.ofFn fun y : Fin image.height =>
    (image.samples settings.scale y hwidth (image.row_lt y)).map settings.layout.triple

theorem map_lineTriples_page (image : Image) (settings : Settings) (hwidth : 0 < image.width) :
    (image.page settings hwidth).map lineTriples = image.shownRows settings hwidth := by
  rw [page, shownRows, List.map_ofFn]
  congr 1
  funext y
  exact lineTriples_sampleGroups ..

theorem Renders.sampleGroups_ne_nil {image : Image} {settings : Settings} {y : Nat}
    (h : image.Renders settings) (hy : y < image.height) :
    sampleGroups settings.layout settings.alphaCounts
      (image.samples settings.scale y h.filled.1 hy) ≠ [] := by
  apply RasterText.sampleGroups_ne_nil
  rw [← List.length_pos_iff, length_samples]
  exact Nat.pos_of_ne_zero h.columns

theorem nil_not_mem_page {image : Image} {settings : Settings} (h : image.Renders settings) :
    [] ∉ image.page settings h.filled.1 := by
  intro hmem
  obtain ⟨y, hy⟩ := List.mem_ofFn.1 hmem
  exact h.sampleGroups_ne_nil (image.row_lt y) hy

theorem toList_unlines_of_render {image : Image} {settings : Settings} {lines : List String}
    (hrender : image.render settings = .ok lines) :
    ∃ h : image.Renders settings,
      (Text.unlines lines).toList =
        pageText settings.encoding (image.page settings h.filled.1) := by
  obtain ⟨h, rfl⟩ := render_eq_ok_iff.1 hrender
  refine ⟨h, ?_⟩
  have hline : ∀ y : Fin image.height,
      (String.ofList (image.rowLine settings y h.filled.1 y.isLt)).toList ++ ['\n'] =
        lineText settings.encoding (sampleGroups settings.layout settings.alphaCounts
          (image.samples settings.scale y h.filled.1 y.isLt)) := by
    intro y
    rw [String.toList_ofList]
    exact lineOf_append_newline ..
  rw [Text.unlines, String.toList_ofList, pageText, page, List.flatMap_def, List.flatMap_def,
    List.map_ofFn, List.map_ofFn]
  exact congrArg List.flatten (congrArg List.ofFn (funext hline))

theorem decode_of_render {image : Image} {settings : Settings} {lines : List String}
    (hrender : image.render settings = .ok lines) :
    ∃ h : image.Renders settings,
      decode settings.encoding (Text.unlines lines).toList =
        some (image.shownRows settings h.filled.1) := by
  obtain ⟨h, htext⟩ := toList_unlines_of_render hrender
  exact ⟨h, decode_eq_some_iff.2
    ⟨_, htext, nil_not_mem_page h, image.map_lineTriples_page settings h.filled.1⟩⟩

theorem decode_rowLine {image : Image} {settings : Settings} {y : Nat}
    (h : image.Renders settings) (hy : y < image.height) :
    decode settings.encoding (image.rowLine settings y h.filled.1 hy ++ ['\n']) =
      some [(image.samples settings.scale y h.filled.1 hy).map settings.layout.triple] := by
  rw [decode_eq_some_iff]
  refine ⟨[sampleGroups settings.layout settings.alphaCounts
    (image.samples settings.scale y h.filled.1 hy)], ?_, ?_, ?_⟩
  · rw [pageText, List.flatMap_singleton]
    exact lineOf_append_newline ..
  · rw [List.mem_singleton]
    exact (h.sampleGroups_ne_nil hy).symm
  · rw [List.map_singleton, lineTriples_sampleGroups]

/-- A row of an image that can be rendered has a line, and it is read back as the triples
of the sampled pixels. -/
theorem decode_renderRow {image : Image} {settings : Settings} {y : Nat}
    (h : image.Renders settings) (hy : y < image.height) :
    ∃ line, image.renderRow settings y = .ok line ∧
      decode settings.encoding (line.toList ++ ['\n']) =
        some [(image.samples settings.scale y h.filled.1 hy).map settings.layout.triple] := by
  refine ⟨_, renderRow_eq_ok_iff.2 ⟨h, hy, rfl⟩, ?_⟩
  rw [String.toList_ofList]
  exact decode_rowLine h hy

theorem getElem?_map_samples (image : Image) (settings : Settings) {x y : Nat}
    (hx : x < columnCount image.width settings.scale) (hwidth : 0 < image.width)
    (hy : y < image.height) :
    ∃ hcolumn : sampledColumn x image.width settings.scale < image.width,
      ((image.samples settings.scale y hwidth hy).map settings.layout.triple)[x]? =
        some (settings.layout.triple
          (image.pixel (sampledColumn x image.width settings.scale) y hcolumn hy)) := by
  refine ⟨sampledColumn_lt x settings.scale hwidth, ?_⟩
  simp [samples, hx]

theorem text?_of_write {image : Image} {settings : Settings} {sink : Sink}
    (hempty : sink.accepted = #[]) (hwritten : (image.write settings sink).error? = none) :
    ∃ lines, image.render settings = .ok lines ∧
      (image.write settings sink).sink.text? = some (Text.unlines lines) := by
  obtain ⟨lines, hrender, haccepted, -⟩ := accepted_of_write hwritten
  exact ⟨lines, hrender, Sink.text?_of_accepted hempty haccepted⟩

/-- Whatever a write without an error leaves in an empty sink decodes to the sampled
pixels, row by row and position by position. -/
theorem decode_of_write {image : Image} {settings : Settings} {sink : Sink}
    (hempty : sink.accepted = #[]) (hwritten : (image.write settings sink).error? = none) :
    ∃ text rows, (image.write settings sink).sink.text? = some text ∧
      decode settings.encoding text.toList = some rows ∧
      rows.length = image.height ∧
      (∀ row ∈ rows, row.length = columnCount image.width settings.scale) ∧
      ∀ x y, x < columnCount image.width settings.scale → ∀ hy : y < image.height,
        ∃ hx : sampledColumn x image.width settings.scale < image.width,
          (rows[y]?.bind fun row => row[x]?) = some (settings.layout.triple
            (image.pixel (sampledColumn x image.width settings.scale) y hx hy)) := by
  obtain ⟨lines, hrender, htext⟩ := text?_of_write hempty hwritten
  obtain ⟨h, hdecode⟩ := decode_of_render hrender
  refine ⟨_, _, htext, hdecode, List.length_ofFn, ?_, ?_⟩
  · intro row hrow
    obtain ⟨y, rfl⟩ := List.mem_ofFn.1 hrow
    rw [List.length_map, length_samples]
  · intro x y hx hy
    obtain ⟨hcolumn, htriple⟩ := image.getElem?_map_samples settings hx h.filled.1 hy
    refine ⟨hcolumn, ?_⟩
    rw [shownRows, List.getElem?_ofFn, dif_pos hy]
    exact htriple

theorem decode_of_write_redGreen :
    (redGreen.write {} { chunk := some 5, interrupts := 2 }).error? = none ∧
      ∃ text rows,
        (redGreen.write {} { chunk := some 5, interrupts := 2 }).sink.text? = some text ∧
        decode .escaped text.toList = some rows ∧
        (rows[0]?.bind fun row => row[2]?) = some (0, 0, 255) := by
  have hwritten : (redGreen.write {} { chunk := some 5, interrupts := 2 }).error? = none := by
    decide +kernel
  obtain ⟨text, rows, htext, hdecode, -, -, hshown⟩ := decode_of_write rfl hwritten
  obtain ⟨_, htriple⟩ := hshown 2 0 (by decide) (by decide)
  exact ⟨hwritten, text, rows, htext, hdecode, htriple⟩

end RasterText.Image
