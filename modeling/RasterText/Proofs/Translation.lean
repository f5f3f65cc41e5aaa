import Mathlib.Data.List.Infix
import RasterText.Proofs.Rendering

/-!
# Translating between the encodings

The two encodings of a line differ in the spelling of its markers alone, and replacing one
spelling by the other in the plain text turns either line into the other one.  Replacement
knows nothing of tokens, so the point is that no spelling of a marker can be found at any
place but at the markers themselves: not inside the other marker, not among digits and
spaces, and not across a seam between two pieces of a line.
-/

namespace RasterText

namespace Text

/-! ## Replacement -/

/-- The text with every occurrence of the pattern replaced.  Occurrences are looked for
from left to right, each one after the end of the one before; an empty pattern occurs
nowhere. -/
def replaceAll (pattern replacement : List Char) : List Char → List Char
  | [] => []
  | c :: text =>
    if pattern ≠ [] ∧ pattern <+: c :: text then
      replacement ++ replaceAll pattern replacement ((c :: text).drop pattern.length)
    else c :: replaceAll pattern replacement text
termination_by text => text.length
decreasing_by
  · rename_i hfound
    have hpos := List.length_pos_iff.2 hfound.1
    simp only [List.length_drop, List.length_cons]
    omega
  · exact Nat.lt_succ_self text.length

def replace (pattern replacement text : String) : String :=
  String.ofList (replaceAll pattern.toList replacement.toList text.toList)

example : replace "aa" "b" "caaad" = "cbad" := by decide +kernel

/-- No occurrence of the pattern begins inside the piece, whatever text follows it. -/
def Apart (pattern piece : List Char) : Prop :=
  ∀ rest ∈ piece.tails, rest ≠ [] → ¬ pattern <+: rest ∧ ¬ rest <+: pattern

instance (pattern piece : List Char) : Decidable (Apart pattern piece) :=
  inferInstanceAs
    (Decidable (∀ rest ∈ piece.tails, rest ≠ [] → ¬ pattern <+: rest ∧ ¬ rest <+: pattern))

/-- Wherever the piece stands, replacement turns it into `result` and goes on after it. -/
def Turns (pattern replacement piece result : List Char) : Prop :=
  ∀ text, replaceAll pattern replacement (piece ++ text) =
    result ++ replaceAll pattern replacement text

theorem turns_pattern {pattern : List Char} (hpattern : pattern ≠ [])
    (replacement : List Char) : Turns pattern replacement pattern replacement := by
  intro text
  obtain ⟨c, rest, hcons⟩ := List.exists_cons_of_ne_nil hpattern
  have hfound : pattern ≠ [] ∧ pattern <+: c :: (rest ++ text) := by
    refine ⟨hpattern, ?_⟩
    rw [hcons]
    exact List.prefix_append (c :: rest) text
  have hdrop : (c :: (rest ++ text)).drop pattern.length = text := by
    rw [hcons, ← List.cons_append, List.drop_left]
  conv_lhs => rw [hcons, List.cons_append, ← hcons, replaceAll, if_pos hfound, hdrop]

theorem apart_cons_iff {c : Char} {pattern piece : List Char} :
    Apart pattern (c :: piece) ↔
      (¬ pattern <+: c :: piece ∧ ¬ c :: piece <+: pattern) ∧ Apart pattern piece := by
  simp [Apart]

theorem Apart.not_prefix {c : Char} {pattern piece : List Char} (h : Apart pattern (c :: piece))
    (text : List Char) : ¬ pattern <+: c :: (piece ++ text) := by
  obtain ⟨⟨hpattern, hpiece⟩, -⟩ := apart_cons_iff.1 h
  intro hfound
  have hfront : c :: piece <+: c :: (piece ++ text) := List.prefix_append (c :: piece) text
  rcases List.prefix_or_prefix_of_prefix hfound hfront with hshort | hlong
  · exact hpattern hshort
  · exact hpiece hlong

theorem turns_of_apart {pattern piece : List Char} (h : Apart pattern piece)
    (replacement : List Char) : Turns pattern replacement piece piece := by
  intro text
  induction piece with
  | nil => rfl
  | cons c piece ih =>
      have hnone : ¬ (pattern ≠ [] ∧ pattern <+: c :: (piece ++ text)) := fun hfound =>
        h.not_prefix text hfound.2
      rw [List.cons_append, replaceAll, if_neg hnone, ih (apart_cons_iff.1 h).2,
        List.cons_append]

theorem Turns.append {pattern replacement first first' second second' : List Char}
    (h : Turns pattern replacement first first') (h' : Turns pattern replacement second second') :
    Turns pattern replacement (first ++ second) (first' ++ second') := by
  intro text
  rw [List.append_assoc, h, h', List.append_assoc]

theorem Turns.flatMap {α : Type} {pattern replacement : List Char} {f g : α → List Char}
    (h : ∀ a, Turns pattern replacement (f a) (g a)) (list : List α) :
    Turns pattern replacement (list.flatMap f) (list.flatMap g) := by
  induction list with
  | nil =>
      intro text
      rfl
  | cons a list ih =>
      rw [List.flatMap_cons, List.flatMap_cons]
      exact (h a).append ih

theorem Turns.replaceAll_eq {pattern replacement piece result : List Char}
    (h : Turns pattern replacement piece result) :
    replaceAll pattern replacement piece = result := by
  have hwhole := h []
  rw [List.append_nil, replaceAll, List.append_nil] at hwhole
  exact hwhole

theorem apart_of_not_mem {c : Char} {pattern piece : List Char} (h : c ∉ piece) :
    Apart (c :: pattern) piece := by
  intro rest hrest hne
  obtain ⟨d, rest, rfl⟩ := List.exists_cons_of_ne_nil hne
  have hmem : d ∈ piece := ((List.mem_tails ..).1 hrest).subset List.mem_cons_self
  have hdiffers : c ≠ d := by
    rintro rfl
    exact h hmem
  simp [List.cons_prefix_cons, hdiffers, hdiffers.symm]

end Text

/-! ## Lines with other markers -/

open Text

def markedLine (layout : Layout) (lead terminator : List Char) (runs : List Run) : List Char :=
  runs.flatMap (fun run => lead ++ (tripleDigits (layout.triple run.color) ++
    List.replicate run.length ' ')) ++ terminator

theorem lineOf_eq_markedLine (settings : Settings) (runs : List Run) :
    lineOf settings runs =
      markedLine settings.layout settings.encoding.lead settings.encoding.terminator runs := by
  have hrun : Run.text settings = fun run => settings.encoding.lead ++
      (tripleDigits (settings.layout.triple run.color) ++ List.replicate run.length ' ') := by
    funext run
    rw [Run.text, token_eq, List.append_assoc]
  rw [lineOf, markedLine, hrun]

/-! ## Markers -/

/-- A text whose first character is neither a digit of a token nor a space. -/
def IsMarker (marker : List Char) : Prop :=
  ∃ c ∈ marker.head?, c ≠ ' ' ∧ ∀ n < 16, Nat.digitChar n ≠ c

theorem isMarker_lead (encoding : Encoding) : IsMarker encoding.lead := by
  cases encoding with
  | escaped => exact ⟨'\\', rfl, by decide⟩
  | raw => exact ⟨'\x1c', rfl, by decide⟩

theorem isMarker_terminator (encoding : Encoding) : IsMarker encoding.terminator := by
  cases encoding with
  | escaped => exact ⟨'\\', rfl, by decide⟩
  | raw => exact ⟨'\x19', rfl, by decide⟩

theorem IsMarker.ne_nil {marker : List Char} (h : IsMarker marker) : marker ≠ [] := by
  obtain ⟨c, hhead, -⟩ := h
  rintro rfl
  simp at hhead

theorem IsMarker.apart_shown {marker : List Char} (h : IsMarker marker) (triple : Triple)
    (length : Nat) : Apart marker (tripleDigits triple ++ List.replicate length ' ') := by
  obtain ⟨c, hhead, hspace, hdigit⟩ := h
  obtain ⟨rest, rfl⟩ := List.head?_eq_some_iff.1 hhead
  apply apart_of_not_mem
  intro hmem
  rcases List.mem_append.1 hmem with hmem | hmem
  · exact not_mem_tripleDigits hdigit triple hmem
  · exact hspace (List.eq_of_mem_replicate hmem)

theorem apart_lead_terminator (source other : Encoding) :
    Apart source.lead other.terminator := by
  cases source <;> cases other <;> decide

theorem apart_terminator_lead (source other : Encoding) :
    Apart source.terminator other.lead := by
  cases source <;> cases other <;> decide

theorem replaceAll_markedLine {marker replacement lead lead' terminator terminator' : List Char}
    (hmarker : IsMarker marker) (hlead : Turns marker replacement lead lead')
    (hterminator : Turns marker replacement terminator terminator') (layout : Layout)
    (runs : List Run) :
    replaceAll marker replacement (markedLine layout lead terminator runs) =
      markedLine layout lead' terminator' runs := by
  apply Turns.replaceAll_eq
  refine Turns.append (Turns.flatMap ?_ runs) hterminator
  intro run
  exact hlead.append (turns_of_apart (hmarker.apart_shown _ _) replacement)

theorem replaceAll_lead (source target other : Encoding) (layout : Layout) (runs : List Run) :
    replaceAll source.lead target.lead (markedLine layout source.lead other.terminator runs) =
      markedLine layout target.lead other.terminator runs := by
  have hlead := isMarker_lead source
  apply replaceAll_markedLine hlead
  · exact turns_pattern hlead.ne_nil target.lead
  · exact turns_of_apart (apart_lead_terminator source other) target.lead

theorem replaceAll_terminator (source target other : Encoding) (layout : Layout)
    (runs : List Run) :
    replaceAll source.terminator target.terminator
        (markedLine layout other.lead source.terminator runs) =
      markedLine layout other.lead target.terminator runs := by
  have hterminator := isMarker_terminator source
  apply replaceAll_markedLine hterminator
  · exact turns_of_apart (apart_terminator_lead source other) target.terminator
  · exact turns_pattern hterminator.ne_nil target.terminator

/-! ## The two encodings of a line -/

/-- The lines are translations of each other, whichever marker is replaced first. -/
structure Translation (escaped raw : String) : Prop where
  toRaw : replace "\\x19" "\x19" (replace "\\x1c" "\x1c" escaped) = raw
  toRaw' : replace "\\x1c" "\x1c" (replace "\\x19" "\x19" escaped) = raw
  toEscaped : replace "\x19" "\\x19" (replace "\x1c" "\\x1c" raw) = escaped
  toEscaped' : replace "\x1c" "\\x1c" (replace "\x19" "\\x19" raw) = escaped

theorem translation_lineOf (settings : Settings) (runs : List Run) :
    Translation (String.ofList (lineOf { settings with encoding := .escaped } runs))
      (String.ofList (lineOf { settings with encoding := .raw } runs)) := by
  have hlead : "\\x1c".toList = Encoding.escaped.lead := by decide
  have hlead' : "\x1c".toList = Encoding.raw.lead := by decide
  have hend : "\\x19".toList = Encoding.escaped.terminator := by decide
  have hend' : "\x19".toList = Encoding.raw.terminator := by decide
  constructor <;>
    simp only [replace, String.toList_ofList, lineOf_eq_markedLine, hlead, hlead', hend, hend',
      replaceAll_lead, replaceAll_terminator]

namespace Image

/-- Under the two encodings an image fails alike, or its lines are translations of each
other, row by row. -/
theorem render_translates (image : Image) (settings : Settings) :
    (∃ error, image.render { settings with encoding := .escaped } = .error error ∧
      image.render { settings with encoding := .raw } = .error error) ∨
    ∃ escaped raw, image.render { settings with encoding := .escaped } = .ok escaped ∧
      image.render { settings with encoding := .raw } = .ok raw ∧
      escaped.length = image.height ∧ List.Forall₂ Translation escaped raw := by
  have hcases := image.render_error_or_renders { settings with encoding := .escaped }
    { settings with encoding := .raw } rfl
  rcases hcases with hfails | ⟨hescaped, hraw⟩
  · exact .inl hfails
  · right
    refine ⟨_, _, render_eq_ok_iff.2 ⟨hescaped, rfl⟩, render_eq_ok_iff.2 ⟨hraw, rfl⟩,
      List.length_ofFn, ?_⟩
    rw [List.forall₂_iff_get]
    refine ⟨by rw [List.length_ofFn, List.length_ofFn], ?_⟩
    intro y hy _
    rw [List.length_ofFn] at hy
    rw [List.get_eq_getElem, List.get_eq_getElem, List.getElem_ofFn, List.getElem_ofFn]
    exact translation_lineOf settings (image.rowRuns settings y hescaped.filled.1 hy)

end Image

end RasterText
