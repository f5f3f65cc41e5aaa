import Mathlib.Data.List.Chain
import RasterText.Proofs.Decoding
import RasterText.Line

/-!
# The shape of a run list

The runs of a row are never empty, neighbours never agree in colour, and together they
show what the samples show, position by position.  So the line of a row spells groups
that the reader of lines takes apart again.
-/

namespace RasterText

/-- Agreeing pixels look the same in every layout, for no layout shows alpha. -/
theorem Layout.triple_eq_of_agrees (layout : Layout) {alphaCounts : Bool} {p q : Pixel}
    (h : p.agrees alphaCounts q = true) : layout.triple p = layout.triple q := by
  have hcolor : p.red = q.red ∧ p.green = q.green ∧ p.blue = q.blue := by
    simp only [Pixel.agrees, Bool.and_eq_true, beq_iff_eq] at h
    exact ⟨h.1.1.1, h.1.1.2, h.1.2⟩
  obtain ⟨hred, hgreen, hblue⟩ := hcolor
  cases layout <;> simp [Layout.triple, hred, hgreen, hblue]

theorem Pixel.agrees_false_iff {p q : Pixel} :
    p.agrees false q = true ↔ Layout.rgb.triple p = Layout.rgb.triple q := by
  simp [Pixel.agrees, Layout.triple, and_assoc]

theorem runsFrom_ne_nil (alphaCounts : Bool) (current : Run) (samples : List Pixel) :
    runsFrom alphaCounts current samples ≠ [] := by
  induction samples generalizing current with
  | nil => simp [runsFrom]
  | cons p samples ih =>
      unfold runsFrom
      split
      · exact ih current.grow
      · simp

theorem runsOf_eq_nil_iff {alphaCounts : Bool} {samples : List Pixel} :
    runsOf alphaCounts samples = [] ↔ samples = [] := by
  cases samples with
  | nil => simp [runsOf]
  | cons p samples => simp [runsOf, runsFrom_ne_nil]

theorem pos_of_mem_runsFrom {alphaCounts : Bool} {current run : Run} {samples : List Pixel}
    (hcurrent : 0 < current.length) (h : run ∈ runsFrom alphaCounts current samples) :
    0 < run.length := by
  induction samples generalizing current with
  | nil =>
      obtain rfl : run = current := by simpa [runsFrom] using h
      exact hcurrent
  | cons p samples ih =>
      unfold runsFrom at h
      split at h
      · exact ih (Nat.succ_pos _) h
      · rcases List.mem_cons.1 h with rfl | h
        · exact hcurrent
        · exact ih Nat.one_pos h

theorem pos_of_mem_runsOf {alphaCounts : Bool} {run : Run} {samples : List Pixel}
    (h : run ∈ runsOf alphaCounts samples) : 0 < run.length := by
  cases samples with
  | nil => simp [runsOf] at h
  | cons p samples => exact pos_of_mem_runsFrom Nat.one_pos h

theorem color_head?_runsFrom (alphaCounts : Bool) (current : Run) (samples : List Pixel) :
    (runsFrom alphaCounts current samples).head?.map Run.color = some current.color := by
  induction samples generalizing current with
  | nil => rfl
  | cons p samples ih =>
      unfold runsFrom
      split
      · exact ih current.grow
      · rfl

theorem isChain_runsFrom (alphaCounts : Bool) (current : Run) (samples : List Pixel) :
    (runsFrom alphaCounts current samples).IsChain
      fun a b => a.color.agrees alphaCounts b.color = false := by
  induction samples generalizing current with
  | nil => simp [runsFrom]
  | cons p samples ih =>
      unfold runsFrom
      split
      · exact ih current.grow
      · rename_i hdiffers
        rw [List.isChain_cons]
        refine ⟨?_, ih _⟩
        intro next hnext
        have hcolor := color_head?_runsFrom alphaCounts ⟨current.stop, 1, p⟩ samples
        rw [Option.mem_def.1 hnext, Option.map_some, Option.some.injEq] at hcolor
        rw [hcolor]
        simpa using hdiffers

theorem isChain_runsOf (alphaCounts : Bool) (samples : List Pixel) :
    (runsOf alphaCounts samples).IsChain
      fun a b => a.color.agrees alphaCounts b.color = false := by
  cases samples with
  | nil => exact List.isChain_nil
  | cons p samples => exact isChain_runsFrom alphaCounts _ samples

/-! ## Groups of runs -/

def Run.triples (layout : Layout) (run : Run) : List Triple :=
  List.replicate run.length (layout.triple run.color)

theorem Run.triples_grow (layout : Layout) (run : Run) :
    run.grow.triples layout = run.triples layout ++ [layout.triple run.color] := by
  rw [Run.triples, Run.triples, Run.grow, List.replicate_succ']

def Run.group (layout : Layout) (run : Run) (hpos : 0 < run.length) : Group :=
  ⟨layout.triple run.color, run.length, hpos⟩

def sampleGroups (layout : Layout) (alphaCounts : Bool) (samples : List Pixel) : List Group :=
  (runsOf alphaCounts samples).pmap (Run.group layout) fun _ => pos_of_mem_runsOf

theorem token_eq (layout : Layout) (encoding : Encoding) (color : Pixel) :
    token layout encoding color = encoding.lead ++ tripleDigits (layout.triple color) := by
  simp [token, tripleDigits]

theorem flatMap_text_pmap_group (settings : Settings) (runs : List Run)
    (hpos : ∀ run ∈ runs, 0 < run.length) :
    (runs.pmap (Run.group settings.layout) hpos).flatMap (Group.text settings.encoding) =
      runs.flatMap (Run.text settings) := by
  induction runs with
  | nil => rfl
  | cons run runs ih =>
      rw [List.pmap_cons, List.flatMap_cons, List.flatMap_cons, ih]
      congr 1
      rw [Run.text, token_eq, Group.text, Run.group]

theorem lineOf_append_newline (settings : Settings) (samples : List Pixel) :
    lineOf settings (runsOf settings.alphaCounts samples) ++ ['\n'] =
      lineText settings.encoding
        (sampleGroups settings.layout settings.alphaCounts samples) := by
  rw [lineOf, lineText, lineEnd, sampleGroups, flatMap_text_pmap_group, List.append_assoc]

theorem sampleGroups_ne_nil (layout : Layout) (alphaCounts : Bool) {samples : List Pixel}
    (h : samples ≠ []) : sampleGroups layout alphaCounts samples ≠ [] := by
  rw [sampleGroups, ne_eq, List.pmap_eq_nil_iff, runsOf_eq_nil_iff]
  exact h

theorem map_length_sampleGroups (layout : Layout) (alphaCounts : Bool)
    (samples : List Pixel) :
    (sampleGroups layout alphaCounts samples).map Group.length =
      (runsOf alphaCounts samples).map Run.length := by
  rw [sampleGroups, List.map_pmap]
  exact List.pmap_eq_map ..

theorem lineTriples_pmap_group (layout : Layout) (runs : List Run)
    (hpos : ∀ run ∈ runs, 0 < run.length) :
    lineTriples (runs.pmap (Run.group layout) hpos) = runs.flatMap (Run.triples layout) := by
  induction runs with
  | nil => rfl
  | cons run runs ih =>
      simp only [lineTriples, List.pmap_cons, List.flatMap_cons] at ih ⊢
      rw [ih]
      rfl

theorem flatMap_triples_runsFrom (layout : Layout) (alphaCounts : Bool) (current : Run)
    (samples : List Pixel) :
    (runsFrom alphaCounts current samples).flatMap (Run.triples layout) =
      current.triples layout ++ samples.map layout.triple := by
  induction samples generalizing current with
  | nil => simp [runsFrom]
  | cons p samples ih =>
      unfold runsFrom
      split
      · rename_i hagrees
        rw [ih, Run.triples_grow, List.map_cons, layout.triple_eq_of_agrees hagrees,
          List.append_assoc, List.singleton_append]
      · rw [List.flatMap_cons, ih]
        rfl

theorem lineTriples_sampleGroups (layout : Layout) (alphaCounts : Bool)
    (samples : List Pixel) :
    lineTriples (sampleGroups layout alphaCounts samples) = samples.map layout.triple := by
  rw [sampleGroups, lineTriples_pmap_group]
  cases samples with
  | nil => rfl
  | cons p samples =>
      rw [runsOf, flatMap_triples_runsFrom]
      rfl

/-! ## Newlines -/

theorem not_mem_hexPair {c : Char} (hc : ∀ n < 16, Nat.digitChar n ≠ c) (byte : UInt8) :
    c ∉ hexPair byte := by
  have hhigh := hc (byte.toNat / 16) (by have := byte.toNat_lt; omega)
  have hlow := hc (byte.toNat % 16) (Nat.mod_lt _ (by decide))
  simp [hexPair, hhigh.symm, hlow.symm]

theorem not_mem_tripleDigits {c : Char} (hc : ∀ n < 16, Nat.digitChar n ≠ c)
    (triple : Triple) : c ∉ tripleDigits triple := by
  simp [tripleDigits, not_mem_hexPair hc]

theorem not_mem_token {c : Char} (hc : ∀ n < 16, Nat.digitChar n ≠ c) {encoding : Encoding}
    (hlead : c ∉ encoding.lead) (layout : Layout) (color : Pixel) :
    c ∉ token layout encoding color := by
  simp [token_eq, hlead, not_mem_tripleDigits hc]

theorem newline_not_mem_token (layout : Layout) (encoding : Encoding) (color : Pixel) :
    '\n' ∉ token layout encoding color := by
  have hlead : '\n' ∉ encoding.lead := by cases encoding <;> decide
  exact not_mem_token (by decide) hlead layout color

theorem newline_not_mem_lineOf (settings : Settings) (runs : List Run) :
    '\n' ∉ lineOf settings runs := by
  have hend : '\n' ∉ settings.encoding.terminator := by
    cases settings.encoding <;> decide
  have hrun : ∀ run : Run, '\n' ∉ run.text settings := by
    intro run
    simp [Run.text, newline_not_mem_token]
  simp [lineOf, hend, hrun]

end RasterText
