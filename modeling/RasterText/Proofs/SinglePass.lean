import RasterText.Proofs.Rendering

/-!
# One pass over a row

A row can be rendered without collecting its runs first: the pass keeps the text so far
and the colour that it announced last, writes a token when a sample does not agree with
that colour, and one space for every sample.  `renderRow_eq_singlePass` shows that the
line of a row is what this pass writes.
-/

namespace RasterText

structure Pass where
  text : String := ""
  tracked : Option Pixel := none

namespace Pass

def knows (settings : Settings) (pass : Pass) (sample : Pixel) : Bool :=
  match pass.tracked with
  | none => false
  | some color => sample.agrees settings.alphaCounts color

def step (settings : Settings) (pass : Pass) (sample : Pixel) : Pass :=
  let announced :=
    if pass.knows settings sample then pass
    else ⟨appendToken pass.text settings.layout settings.encoding sample, some sample⟩
  { announced with text := announced.text.push ' ' }

/-- The pass has written the finished runs and the open one, as far as it goes. -/
structure Follows (settings : Settings) (pass : Pass) (finished : List Run) (current : Run) :
    Prop where
  text : pass.text.toList = (finished ++ [current]).flatMap (Run.text settings)
  tracked : pass.tracked = some current.color

end Pass

theorem Pixel.agrees_comm (alphaCounts : Bool) (p q : Pixel) :
    p.agrees alphaCounts q = q.agrees alphaCounts p := by
  rw [Bool.eq_iff_iff]
  exact ⟨agrees_symm, agrees_symm⟩

theorem Run.text_grow (settings : Settings) (run : Run) :
    run.grow.text settings = run.text settings ++ [' '] := by
  rw [Run.text, Run.text, Run.grow, List.replicate_succ', List.append_assoc]

theorem Run.text_one (settings : Settings) (start : Nat) (color : Pixel) :
    Run.text settings ⟨start, 1, color⟩ =
      token settings.layout settings.encoding color ++ [' '] := by
  rw [Run.text, List.replicate_one]

namespace Pass

theorem Follows.knows_eq {settings : Settings} {pass : Pass} {finished : List Run}
    {current : Run} (h : pass.Follows settings finished current) (sample : Pixel) :
    pass.knows settings sample = current.color.agrees settings.alphaCounts sample := by
  simp only [knows, h.tracked]
  exact Pixel.agrees_comm ..

theorem Follows.step_agrees {settings : Settings} {pass : Pass} {finished : List Run}
    {current : Run} {sample : Pixel} (h : pass.Follows settings finished current)
    (hagrees : current.color.agrees settings.alphaCounts sample = true) :
    (pass.step settings sample).Follows settings finished current.grow := by
  have hknows : pass.knows settings sample = true := (h.knows_eq sample).trans hagrees
  constructor
  · rw [step, if_pos hknows, String.toList_push, h.text]
    simp only [List.flatMap_append, List.flatMap_singleton, Run.text_grow, List.append_assoc]
  · rw [step, if_pos hknows]
    exact h.tracked

theorem Follows.step_differs {settings : Settings} {pass : Pass} {finished : List Run}
    {current : Run} {sample : Pixel} (h : pass.Follows settings finished current)
    (hdiffers : current.color.agrees settings.alphaCounts sample ≠ true) :
    (pass.step settings sample).Follows settings (finished ++ [current])
      ⟨current.stop, 1, sample⟩ := by
  have hknows : ¬ pass.knows settings sample = true := by
    rw [h.knows_eq]
    exact hdiffers
  constructor
  · rw [step, if_neg hknows, String.toList_push, appendToken, String.toList_append,
      String.toList_ofList, h.text]
    simp only [List.flatMap_append, List.flatMap_singleton, Run.text_one, List.append_assoc]
  · rw [step, if_neg hknows]

theorem follows_first (settings : Settings) (sample : Pixel) :
    (step settings {} sample).Follows settings [] ⟨0, 1, sample⟩ := by
  constructor
  · simp [step, knows, appendToken, Run.text_one]
  · simp [step, knows]

theorem Follows.foldl {settings : Settings} {pass : Pass} {finished : List Run}
    {current : Run} (h : pass.Follows settings finished current) (samples : List Pixel) :
    (samples.foldl (step settings) pass).text.toList =
      (finished ++ runsFrom settings.alphaCounts current samples).flatMap
        (Run.text settings) := by
  induction samples generalizing pass finished current with
  | nil => exact h.text
  | cons sample samples ih =>
      rw [List.foldl_cons, runsFrom]
      by_cases hagrees : current.color.agrees settings.alphaCounts sample = true
      · rw [if_pos hagrees]
        exact ih (h.step_agrees hagrees)
      · rw [if_neg hagrees, ih (h.step_differs hagrees), List.append_assoc,
          List.singleton_append]

theorem toList_text_foldl (settings : Settings) (samples : List Pixel) :
    (samples.foldl (step settings) {}).text.toList =
      (runsOf settings.alphaCounts samples).flatMap (Run.text settings) := by
  cases samples with
  | nil => rfl
  | cons sample samples => exact (follows_first settings sample).foldl samples

end Pass

namespace Image

/-- The line of an existing row, written in one pass over its output positions. -/
def singlePass (image : Image) (settings : Settings) (y : Nat) (hwidth : 0 < image.width)
    (hy : y < image.height) : String :=
  let pass := (List.range (columnCount image.width settings.scale)).foldl
    (fun pass x => pass.step settings (image.pixel (sampledColumn x image.width settings.scale) y
      (sampledColumn_lt x settings.scale hwidth) hy)) ({} : Pass)
  pass.text ++ String.ofList settings.encoding.terminator

theorem singlePass_eq (image : Image) (settings : Settings) (y : Nat)
    (hwidth : 0 < image.width) (hy : y < image.height) :
    image.singlePass settings y hwidth hy =
      String.ofList (image.rowLine settings y hwidth hy) := by
  have hpass := Pass.toList_text_foldl settings (image.samples settings.scale y hwidth hy)
  rw [samples, List.foldl_map] at hpass
  apply String.toList_injective
  rw [singlePass, String.toList_append, hpass, String.toList_ofList, String.toList_ofList]
  rfl

theorem renderRow_eq_singlePass {image : Image} {settings : Settings} {y : Nat} {line : String}
    (h : image.renderRow settings y = .ok line) :
    ∃ (hwidth : 0 < image.width) (hy : y < image.height),
      line = image.singlePass settings y hwidth hy := by
  obtain ⟨hrenders, hy, rfl⟩ := renderRow_eq_ok_iff.1 h
  exact ⟨hrenders.filled.1, hy, (image.singlePass_eq settings y hrenders.filled.1 hy).symm⟩

theorem renderRow_eq_singlePass_redGreen :
    redGreen.renderRow {} 0 = .ok "\\x1cffff00  \\x1c0000ff \\x19" ∧
      "\\x1cffff00  \\x1c0000ff \\x19" = redGreen.singlePass {} 0 (by decide) (by decide) := by
  have hrow : redGreen.renderRow {} 0 = .ok "\\x1cffff00  \\x1c0000ff \\x19" := by
    decide +kernel
  obtain ⟨_, _, hline⟩ := renderRow_eq_singlePass hrow
  exact ⟨hrow, hline⟩

end Image

end RasterText
