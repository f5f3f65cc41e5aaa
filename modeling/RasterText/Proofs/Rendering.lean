import RasterText.Proofs.Runs
import RasterText.Proofs.Writing

/-!
# When rendering succeeds

Rendering a whole image, rendering one of its rows, looking at the runs of a row and
writing the image repeat the same checks in slightly different orders.  They succeed
together and report the same errors; a row outside the image is the one fault that
only the two operations on rows can see.
-/

namespace RasterText.Image

structure Renders (image : Image) (settings : Settings) : Prop where
  accepted : settings.fault? = none
  filled : image.IsFilled
  columns : columnCount image.width settings.scale ≠ 0

theorem render_eq_ok_iff {image : Image} {settings : Settings} {lines : List String} :
    image.render settings = .ok lines ↔
      ∃ h : image.Renders settings,
        lines = List.ofFn fun y : Fin image.height =>
          String.ofList (image.rowLine settings y h.filled.1 y.isLt) := by
  constructor
  · intro hrender
    unfold render at hrender
    split at hrender
    · contradiction
    · rename_i haccepted
      split at hrender
      · rename_i hfilled
        split at hrender
        · contradiction
        · rename_i hcolumns
          exact ⟨⟨haccepted, hfilled, hcolumns⟩, (Except.ok.inj hrender).symm⟩
      · contradiction
  · rintro ⟨⟨haccepted, hfilled, hcolumns⟩, rfl⟩
    simp [render, haccepted, hfilled, hcolumns]

theorem render_of_no_columns {image : Image} {settings : Settings}
    (haccepted : settings.fault? = none) (hfilled : image.IsFilled)
    (h : columnCount image.width settings.scale = 0) :
    image.render settings = .error (image.noColumns settings) := by
  simp [render, haccepted, hfilled, h]

theorem renderRow_eq_ok_iff {image : Image} {settings : Settings} {y : Nat} {line : String} :
    image.renderRow settings y = .ok line ↔
      ∃ (h : image.Renders settings) (hy : y < image.height),
        line = String.ofList (image.rowLine settings y h.filled.1 hy) := by
  constructor
  · intro hrender
    unfold renderRow at hrender
    split at hrender
    · contradiction
    · rename_i haccepted
      split at hrender
      · rename_i hfilled
        split at hrender
        · rename_i hy
          split at hrender
          · contradiction
          · rename_i hcolumns
            exact ⟨⟨haccepted, hfilled, hcolumns⟩, hy, (Except.ok.inj hrender).symm⟩
        · contradiction
      · contradiction
  · rintro ⟨⟨haccepted, hfilled, hcolumns⟩, hy, rfl⟩
    simp [renderRow, haccepted, hfilled, hcolumns, hy]

theorem runs_eq_ok_iff {image : Image} {settings : Settings} {y : Nat} {runs : List Run} :
    image.runs settings y = .ok runs ↔
      ∃ (h : image.IsFilled) (hy : y < image.height),
        runs = image.rowRuns settings y h.1 hy := by
  constructor
  · intro hruns
    unfold Image.runs at hruns
    split at hruns
    · rename_i hfilled
      split at hruns
      · rename_i hy
        exact ⟨hfilled, hy, (Except.ok.inj hruns).symm⟩
      · contradiction
    · contradiction
  · rintro ⟨hfilled, hy, rfl⟩
    simp [Image.runs, hfilled, hy]

theorem rowRuns_eq_nil_iff {image : Image} {settings : Settings} {y : Nat}
    (hwidth : 0 < image.width) (hy : y < image.height) :
    image.rowRuns settings y hwidth hy = [] ↔ columnCount image.width settings.scale = 0 := by
  rw [rowRuns, runsOf_eq_nil_iff, ← List.length_eq_zero_iff, length_samples]

theorem renderRow_outside {image : Image} {settings : Settings} {y : Nat}
    (haccepted : settings.fault? = none) (hfilled : image.IsFilled) (hy : image.height ≤ y) :
    image.renderRow settings y = .error (.rowOutOfRange y image.height) := by
  simp [renderRow, haccepted, hfilled, Nat.not_lt.2 hy]

theorem renderRow_of_render_error {image : Image} {settings : Settings} {error : Error}
    (h : image.render settings = .error error) (y : Nat) :
    image.renderRow settings y =
      if settings.fault? ≠ none ∨ ¬ image.IsFilled ∨ y < image.height then .error error
      else .error (.rowOutOfRange y image.height) := by
  cases hfault : settings.fault? with
  | some fault =>
      obtain rfl : .invalidSettings fault = error := by simpa [render, hfault] using h
      simp [renderRow, hfault]
  | none =>
      by_cases hfilled : image.IsFilled
      · by_cases hcolumns : columnCount image.width settings.scale = 0
        · obtain rfl : image.noColumns settings = error := by
            simpa [render, hfault, hfilled, hcolumns] using h
          by_cases hy : y < image.height
          · simp [renderRow, hfault, hfilled, hcolumns, hy]
          · simp [renderRow, hfault, hfilled, hy]
        · simp [render, hfault, hfilled, hcolumns] at h
      · obtain rfl : .emptyImage image.width image.height = error := by
          simpa [render, hfault, hfilled] using h
        simp [renderRow, hfault, hfilled]

/-- Whether an image is rendered, and why not, hangs on the scale alone. -/
theorem render_error_or_renders (image : Image) (settings others : Settings)
    (hscale : others.scale = settings.scale) :
    (∃ error, image.render settings = .error error ∧ image.render others = .error error) ∨
      (image.Renders settings ∧ image.Renders others) := by
  have hfault : others.fault? = settings.fault? := by
    simp only [Settings.fault?, hscale]
  cases haccepted : settings.fault? with
  | some fault =>
      left
      refine ⟨.invalidSettings fault, ?_, ?_⟩ <;> simp [render, hfault, haccepted]
  | none =>
      by_cases hfilled : image.IsFilled
      · by_cases hcolumns : columnCount image.width settings.scale = 0
        · left
          refine ⟨image.noColumns settings, ?_, ?_⟩ <;>
            simp [render, hfault, haccepted, hfilled, hcolumns, noColumns, hscale]
        · right
          have hcolumns' : columnCount image.width others.scale ≠ 0 := by rwa [hscale]
          exact ⟨⟨haccepted, hfilled, hcolumns⟩, ⟨hfault.trans haccepted, hfilled, hcolumns'⟩⟩
      · left
        refine ⟨.emptyImage image.width image.height, ?_, ?_⟩ <;>
          simp [render, hfault, haccepted, hfilled]

theorem exists_runs_eq_ok_iff {image : Image} {settings : Settings} {y : Nat} :
    (∃ runs, image.runs settings y = .ok runs) ↔ image.IsFilled ∧ y < image.height := by
  simp only [runs_eq_ok_iff]
  constructor
  · rintro ⟨_, hfilled, hy, -⟩
    exact ⟨hfilled, hy⟩
  · rintro ⟨hfilled, hy⟩
    exact ⟨_, hfilled, hy, rfl⟩

theorem exists_renderRow_eq_ok_iff {image : Image} {settings : Settings} {y : Nat} :
    (∃ line, image.renderRow settings y = .ok line) ↔
      settings.fault? = none ∧ ∃ runs, image.runs settings y = .ok runs ∧ runs ≠ [] := by
  simp only [renderRow_eq_ok_iff, runs_eq_ok_iff]
  constructor
  · rintro ⟨_, h, hy, -⟩
    refine ⟨h.accepted, _, ⟨h.filled, hy, rfl⟩, ?_⟩
    rw [ne_eq, rowRuns_eq_nil_iff]
    exact h.columns
  · rintro ⟨haccepted, _, ⟨hfilled, hy, rfl⟩, hne⟩
    rw [ne_eq, rowRuns_eq_nil_iff] at hne
    exact ⟨_, ⟨haccepted, hfilled, hne⟩, hy, rfl⟩

/-- The four operations agree: on success row by row, and in every error. -/
theorem operations_agree (image : Image) (settings : Settings) :
    (∀ lines, image.render settings = .ok lines →
      lines.length = image.height ∧
      (∀ y (hy : y < lines.length), image.renderRow settings y = .ok lines[y]) ∧
      (∀ y, image.height ≤ y →
        image.renderRow settings y = .error (.rowOutOfRange y image.height)) ∧
      ∀ sink : Sink, sink.IsUnlimited →
        (image.write settings sink).error? = none ∧
        (image.write settings sink).sink.accepted.toList =
          sink.accepted.toList ++ Text.bytes (Text.unlines lines) ∧
        (image.write settings sink).sink.flushes = sink.flushes + 1) ∧
    (∀ error, image.render settings = .error error →
      (∀ sink : Sink, (image.write settings sink).error? = some error ∧
        (image.write settings sink).sink = sink) ∧
      ∀ y, image.renderRow settings y =
        if settings.fault? ≠ none ∨ ¬ image.IsFilled ∨ y < image.height then .error error
        else .error (.rowOutOfRange y image.height)) ∧
    (∀ y, (∃ runs, image.runs settings y = .ok runs) ↔ image.IsFilled ∧ y < image.height) ∧
    ∀ y, (∃ line, image.renderRow settings y = .ok line) ↔
      settings.fault? = none ∧ ∃ runs, image.runs settings y = .ok runs ∧ runs ≠ [] := by
  refine ⟨?_, ?_, fun y => exists_runs_eq_ok_iff, fun y => exists_renderRow_eq_ok_iff⟩
  · intro lines hrender
    obtain ⟨h, rfl⟩ := render_eq_ok_iff.1 hrender
    refine ⟨List.length_ofFn, ?_, ?_, fun sink hsink => write_of_isUnlimited hsink hrender⟩
    · intro y hy
      rw [List.length_ofFn] at hy
      exact renderRow_eq_ok_iff.2 ⟨h, hy, by rw [List.getElem_ofFn]⟩
    · intro y hy
      exact renderRow_outside h.accepted h.filled hy
  · intro error hrender
    refine ⟨fun sink => ?_, renderRow_of_render_error hrender⟩
    rw [write_of_error hrender]
    exact ⟨rfl, rfl⟩

theorem operations_agree_redGreen :
    redGreen.render {} = .ok ["\\x1cffff00  \\x1c0000ff \\x19"] ∧
      redGreen.renderRow {} 0 = .ok "\\x1cffff00  \\x1c0000ff \\x19" ∧
      redGreen.render { scale := minScale } =
        .error (.invalidSettings (.noColumns minScale 2)) ∧
      redGreen.renderRow { scale := minScale } 1 = .error (.rowOutOfRange 1 1) := by
  have hrender : redGreen.render {} = .ok ["\\x1cffff00  \\x1c0000ff \\x19"] := by
    decide +kernel
  have hnone : redGreen.render { scale := minScale } =
      .error (.invalidSettings (.noColumns minScale 2)) := by
    decide +kernel
  refine ⟨hrender, ?_, hnone, ?_⟩
  · exact ((operations_agree redGreen {}).1 _ hrender).2.1 0 (by decide)
  · rw [((operations_agree redGreen { scale := minScale }).2.1 _ hnone).2 1]
    decide +kernel

end RasterText.Image
