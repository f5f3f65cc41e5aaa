import Mathlib.Algebra.Ring.Nat
import Mathlib.Data.List.Forall2
import RasterText.Proofs.LineShape

/-!
# Tokens as a code

Tokens are appended to a text one by one, each with a layout and an encoding of its own.
The lead tells the encoding and six digits follow it, so no token is the beginning of one
that shows something else.  Hence the appended text can be taken apart in one way only: it
tells how many tokens there are, and of each its encoding and its triple, but not the
channels that the layout leaves out.
-/

namespace RasterText

structure TokenStep where
  layout : Layout
  encoding : Encoding
  color : Pixel
deriving DecidableEq

namespace TokenStep

def text (step : TokenStep) : List Char :=
  token step.layout step.encoding step.color

/-- The tokens of both steps are spelled in one encoding and show the same triple. -/
structure ShowsSame (a b : TokenStep) : Prop where
  encoding : a.encoding = b.encoding
  triple : a.layout.triple a.color = b.layout.triple b.color

end TokenStep

def appendTokens (text : String) (steps : List TokenStep) : String :=
  steps.foldl (fun text step => appendToken text step.layout step.encoding step.color) text

/-! ## What is appended -/

theorem appendTokens_eq (text : String) (steps : List TokenStep) :
    appendTokens text steps = text ++ String.ofList (steps.flatMap TokenStep.text) := by
  induction steps generalizing text with
  | nil => simp [appendTokens]
  | cons step steps ih =>
      have hstep : appendTokens text (step :: steps) =
          appendTokens (text ++ String.ofList step.text) steps := rfl
      rw [hstep, ih, String.append_assoc, ← String.ofList_append, List.flatMap_cons]

theorem length_flatMap_text (steps : List TokenStep) :
    (steps.flatMap TokenStep.text).length =
      (steps.map fun step => step.encoding.tokenLength).sum := by
  rw [List.length_flatMap]
  congr 1
  apply List.map_congr_left
  intro step hstep
  exact length_token step.layout step.encoding step.color

theorem utf8Size_of_mem_flatMap_text {steps : List TokenStep} {c : Char}
    (h : c ∈ steps.flatMap TokenStep.text) : c.utf8Size = 1 := by
  obtain ⟨step, -, hstep⟩ := List.mem_flatMap.1 h
  exact utf8Size_of_mem_token hstep

/-! ## Taking tokens apart -/

theorem Encoding.lead_append_inj {e f : Encoding} {s t : List Char} :
    e.lead ++ s = f.lead ++ t ↔ e = f ∧ s = t := by
  cases e <;> cases f <;> simp [Encoding.lead]

theorem tripleDigits_append_inj {p q : Triple} {s t : List Char} :
    tripleDigits p ++ s = tripleDigits q ++ t ↔ p = q ∧ s = t := by
  constructor
  · -- The reader of six digits returns one triple and one rest.
    intro h
    have hread := readTriple_eq_some_iff.2 h
    rw [readTriple_eq_some_iff.2 rfl, Option.some.injEq, Prod.mk.injEq] at hread
    exact hread
  · rintro ⟨rfl, rfl⟩
    rfl

/-- No token is the beginning of one that shows something else. -/
theorem TokenStep.text_append_inj {a b : TokenStep} {s t : List Char} :
    a.text ++ s = b.text ++ t ↔ a.ShowsSame b ∧ s = t := by
  rw [text, text, token_eq, token_eq, List.append_assoc, List.append_assoc,
    Encoding.lead_append_inj, tripleDigits_append_inj]
  constructor
  · rintro ⟨hencoding, htriple, hrest⟩
    exact ⟨⟨hencoding, htriple⟩, hrest⟩
  · rintro ⟨⟨hencoding, htriple⟩, hrest⟩
    exact ⟨hencoding, htriple, hrest⟩

theorem TokenStep.text_ne_nil (step : TokenStep) : step.text ≠ [] := by
  intro h
  have hlength := congrArg List.length h
  rw [text, length_token, Encoding.tokenLength, List.length_nil] at hlength
  omega

theorem flatMap_text_eq_iff {a b : List TokenStep} :
    a.flatMap TokenStep.text = b.flatMap TokenStep.text ↔
      List.Forall₂ TokenStep.ShowsSame a b := by
  induction a generalizing b with
  | nil =>
      cases b with
      | nil => simp
      | cons step b => simp [step.text_ne_nil]
  | cons step a ih =>
      cases b with
      | nil => simp [step.text_ne_nil]
      | cons other b =>
          rw [List.flatMap_cons, List.flatMap_cons, TokenStep.text_append_inj, ih,
            List.forall₂_cons]

/-! ## Main statement -/

/-- Steps leave the text in place and append one token each, and two lists of steps append
the same, to whatever texts, exactly when they have the same length and at every place the
same encoding and triple. -/
theorem appendTokens_uniquely_decodable (text : String) (steps : List TokenStep) :
    ∃ added : String,
      appendTokens text steps = text ++ added ∧
      added.utf8ByteSize = (steps.map fun step => step.encoding.tokenLength).sum ∧
      ∀ (start : String) (others : List TokenStep),
        appendTokens start others = start ++ added ↔
          List.Forall₂ TokenStep.ShowsSame others steps := by
  refine ⟨String.ofList (steps.flatMap TokenStep.text), appendTokens_eq text steps, ?_, ?_⟩
  · rw [Text.utf8ByteSize_ofList fun c hc => utf8Size_of_mem_flatMap_text hc,
      length_flatMap_text]
  · intro start others
    rw [appendTokens_eq, String.append_right_inj, String.ofList_inj, flatMap_text_eq_iff]

example : appendTokens "a" [⟨.rrg, .escaped, ⟨255, 0, 1, 9⟩⟩, ⟨.rgb, .raw, ⟨1, 2, 171, 0⟩⟩] =
    "a\\x1cffff00\x1c0102ab" := by
  decide +kernel

end RasterText
