import RasterText.Proofs.Tilings
import RasterText.Proofs.Translation

/-!
# The shape of a line

The line of a row has one space for every output position, one lead for every run and one
terminator, at its end, and its length is the sum of these parts.  A marker is looked for at
every place of the line, so it has to be shown that it begins nowhere else: not in a digit, a
space or another marker, and not inside itself.
-/

namespace RasterText

namespace Text

/-! ## Occurrences -/

/-- How often the pattern occurs in the text, counted at every place where it begins. -/
def occurrences (pattern text : List Char) : Nat :=
  text.tails.countP fun rest => pattern <+: rest

theorem occurrences_cons (pattern : List Char) (c : Char) (text : List Char) :
    occurrences pattern (c :: text) =
      occurrences pattern text + if pattern <+: c :: text then 1 else 0 := by
  simp [occurrences, List.countP_cons]

/-- Wherever the piece stands, so many occurrences of the pattern begin in it. -/
def Adds (pattern : List Char) (n : Nat) (piece : List Char) : Prop :=
  ∀ text, occurrences pattern (piece ++ text) = n + occurrences pattern text

theorem adds_of_apart {pattern piece : List Char} (h : Apart pattern piece) :
    Adds pattern 0 piece := by
  intro text
  rw [Nat.zero_add]
  induction piece with
  | nil => rfl
  | cons c piece ih =>
      rw [List.cons_append, occurrences_cons, if_neg (h.not_prefix text), ih (apart_cons_iff.1 h).2,
        Nat.add_zero]

/-- A pattern that does not begin again inside itself occurs once where it stands. -/
theorem adds_pattern {pattern : List Char} (hpattern : pattern ≠ [])
    (htail : Apart pattern pattern.tail) : Adds pattern 1 pattern := by
  intro text
  obtain ⟨c, rest, hcons⟩ := List.exists_cons_of_ne_nil hpattern
  have hfound : pattern <+: c :: (rest ++ text) := by
    rw [hcons]
    exact List.prefix_append (c :: rest) text
  have hrest := adds_of_apart htail text
  rw [hcons, List.tail_cons, ← hcons, Nat.zero_add] at hrest
  conv_lhs => rw [hcons, List.cons_append, ← hcons, occurrences_cons, if_pos hfound, hrest]
  exact Nat.add_comm ..

theorem Adds.append {pattern first second : List Char} {n m : Nat} (h : Adds pattern n first)
    (h' : Adds pattern m second) : Adds pattern (n + m) (first ++ second) := by
  intro text
  rw [List.append_assoc, h, h', Nat.add_assoc]

theorem Adds.flatMap {α : Type} {pattern : List Char} {n : Nat} {f : α → List Char}
    (h : ∀ a, Adds pattern n (f a)) (list : List α) :
    Adds pattern (list.length * n) (list.flatMap f) := by
  induction list with
  | nil =>
      intro text
      simp
  | cons a list ih =>
      rw [List.flatMap_cons, List.length_cons, Nat.succ_mul, Nat.add_comm]
      exact (h a).append ih

theorem Adds.occurrences_eq {pattern piece : List Char} {n : Nat} (h : Adds pattern n piece)
    (hpattern : pattern ≠ []) : occurrences pattern piece = n := by
  have hwhole := h []
  rw [List.append_nil] at hwhole
  rw [hwhole]
  simp [occurrences, hpattern]

example : occurrences ['a', 'a'] "aaaba".toList = 2 := by decide

/-! ## Bytes -/

theorem utf8ByteSize_ofList {text : List Char} (h : ∀ c ∈ text, c.utf8Size = 1) :
    (String.ofList text).utf8ByteSize = text.length := by
  have hsizes : text.map (fun c => (String.utf8EncodeChar c).length) = text.map fun _ => 1 := by
    apply List.map_congr_left
    intro c hc
    rw [String.length_utf8EncodeChar, h c hc]
  rw [← String.size_toByteArray, String.toByteArray_ofList, List.utf8Encode,
    List.size_toByteArray, List.length_flatMap, hsizes]
  simp

end Text

/-! ## Characters of a line -/

theorem mem_tripleDigits {c : Char} {triple : Triple} (h : c ∈ tripleDigits triple) :
    ∃ n < 16, Nat.digitChar n = c := by
  by_contra hnone
  apply not_mem_tripleDigits _ triple h
  intro n hn hdigit
  exact hnone ⟨n, hn, hdigit⟩

theorem utf8Size_of_mem_token {layout : Layout} {encoding : Encoding} {color : Pixel} {c : Char}
    (h : c ∈ token layout encoding color) : c.utf8Size = 1 := by
  have hlead : ∀ d ∈ encoding.lead, d.utf8Size = 1 := by
    cases encoding <;> simp [Encoding.lead, Char.utf8Size]
  have hdigit : ∀ n < 16, (Nat.digitChar n).utf8Size = 1 := by decide
  rw [token_eq, List.mem_append] at h
  rcases h with hfirst | hshown
  · exact hlead c hfirst
  · obtain ⟨n, hn, rfl⟩ := mem_tripleDigits hshown
    exact hdigit n hn

theorem utf8Size_of_mem_lineOf {settings : Settings} {runs : List Run} {c : Char}
    (h : c ∈ lineOf settings runs) : c.utf8Size = 1 := by
  have hterminator : ∀ d ∈ settings.encoding.terminator, d.utf8Size = 1 := by
    cases settings.encoding <;> simp [Encoding.terminator, Char.utf8Size]
  rw [lineOf, List.mem_append, List.mem_flatMap] at h
  rcases h with ⟨run, -, hrun⟩ | hend
  · rw [Run.text, List.mem_append] at hrun
    rcases hrun with htoken | hspace
    · exact utf8Size_of_mem_token htoken
    · obtain rfl := List.eq_of_mem_replicate hspace
      decide
  · exact hterminator c hend

theorem space_not_mem_token (layout : Layout) (encoding : Encoding) (color : Pixel) :
    ' ' ∉ token layout encoding color := by
  have hlead : ' ' ∉ encoding.lead := by cases encoding <;> decide
  exact not_mem_token (by decide) hlead layout color

theorem count_space_lineOf (settings : Settings) (runs : List Run) :
    (lineOf settings runs).count ' ' = totalLength runs := by
  have hend : settings.encoding.terminator.count ' ' = 0 := by
    cases settings.encoding <;> decide
  rw [lineOf, List.count_append, hend, Nat.add_zero]
  induction runs with
  | nil => rfl
  | cons run runs ih =>
      have htoken := List.count_eq_zero_of_not_mem
        (space_not_mem_token settings.layout settings.encoding run.color)
      rw [List.flatMap_cons, List.count_append, ih, Run.text, List.count_append, htoken,
        List.count_replicate_self, Nat.zero_add, totalLength]

/-! ## Markers of a line -/

open Text

theorem occurrences_markedLine {marker lead terminator : List Char} {n m : Nat}
    (hmarker : IsMarker marker) (hlead : Adds marker n lead)
    (hterminator : Adds marker m terminator) (layout : Layout) (runs : List Run) :
    occurrences marker (markedLine layout lead terminator runs) = runs.length * n + m := by
  have hrun : ∀ run : Run, Adds marker n (lead ++ (tripleDigits (layout.triple run.color) ++
      List.replicate run.length ' ')) := by
    intro run
    exact hlead.append (adds_of_apart (hmarker.apart_shown _ _))
  exact ((Adds.flatMap hrun runs).append hterminator).occurrences_eq hmarker.ne_nil

theorem occurrences_lead_lineOf (settings : Settings) (runs : List Run) :
    occurrences settings.encoding.lead (lineOf settings runs) = runs.length := by
  have hmarker := isMarker_lead settings.encoding
  have htail : Apart settings.encoding.lead settings.encoding.lead.tail := by
    cases settings.encoding <;> decide
  rw [lineOf_eq_markedLine, occurrences_markedLine hmarker (adds_pattern hmarker.ne_nil htail)
    (adds_of_apart (apart_lead_terminator settings.encoding settings.encoding)), Nat.mul_one,
    Nat.add_zero]

theorem occurrences_terminator_lineOf (settings : Settings) (runs : List Run) :
    occurrences settings.encoding.terminator (lineOf settings runs) = 1 := by
  have hmarker := isMarker_terminator settings.encoding
  have htail : Apart settings.encoding.terminator settings.encoding.terminator.tail := by
    cases settings.encoding <;> decide
  rw [lineOf_eq_markedLine, occurrences_markedLine hmarker
    (adds_of_apart (apart_terminator_lead settings.encoding settings.encoding))
    (adds_pattern hmarker.ne_nil htail), Nat.mul_zero, Nat.zero_add]

theorem lead_prefix_lineOf (settings : Settings) {runs : List Run} (hruns : runs ≠ []) :
    settings.encoding.lead <+: lineOf settings runs := by
  obtain ⟨run, rest, rfl⟩ := List.exists_cons_of_ne_nil hruns
  rw [lineOf_eq_markedLine, markedLine, List.flatMap_cons, List.append_assoc, List.append_assoc]
  exact List.prefix_append ..

/-! ## The number of runs -/

/-- How many positions after `start` and before `stop` do not agree with the one before. -/
def changes (alphaCounts : Bool) (shown : Nat → Pixel) (start stop : Nat) : Nat :=
  (List.range' (start + 1) (stop - (start + 1))).countP fun x =>
    !(shown (x - 1)).agrees alphaCounts (shown x)

section Changes

variable {alphaCounts : Bool} {shown : Nat → Pixel} {start stop : Nat} {run : Run}
  {runs : List Run}

theorem changes_split {cut : Nat} (hstart : start ≤ cut) (hstop : cut + 1 < stop)
    (hchange : (shown cut).agrees alphaCounts (shown (cut + 1)) = false) :
    changes alphaCounts shown start stop =
      changes alphaCounts shown start (cut + 1) + 1 +
        changes alphaCounts shown (cut + 1) stop := by
  obtain ⟨inside, rfl⟩ := Nat.exists_eq_add_of_le hstart
  obtain ⟨behind, rfl⟩ := Nat.exists_eq_add_of_lt hstop
  have hall : start + inside + 1 + behind + 1 - (start + 1) = inside + (behind + 1) := by omega
  have hinside : start + inside + 1 - (start + 1) = inside := by omega
  have hbehind : start + inside + 1 + behind + 1 - (start + inside + 1 + 1) = behind := by omega
  have hcut : start + 1 + inside = start + inside + 1 := by omega
  rw [changes, changes, changes, hall, hinside, hbehind, ← List.range'_append_1, hcut,
    List.range'_succ, List.countP_append, List.countP_cons, Nat.add_sub_cancel, hchange,
    Bool.not_false, if_pos rfl]
  omega

theorem Run.Fits.changes_eq_zero (h : run.Fits alphaCounts shown) :
    changes alphaCounts shown run.start run.stop = 0 := by
  rw [changes, List.countP_eq_zero]
  intro x hx
  rw [List.mem_range'_1] at hx
  have hagrees := h.agrees_succ (show run.start ≤ x - 1 by omega) (by omega)
  rw [Nat.sub_add_cancel (by omega)] at hagrees
  simp [hagrees]

theorem Tiles.length_eq_changes (h : Tiles alphaCounts shown start stop runs)
    (hstart : start < stop) : runs.length = 1 + changes alphaCounts shown start stop := by
  induction runs generalizing start with
  | nil =>
      have := tiles_nil_iff.1 h
      omega
  | cons run runs ih =>
      obtain ⟨rfl, hfits, -, hrest⟩ := tiles_cons_iff.1 h
      have hinside := hfits.changes_eq_zero
      rcases Nat.eq_or_lt_of_le hrest.start_le_stop with hlast | hmore
      · obtain rfl := hrest.eq_nil_iff.2 hlast
        rw [← hlast, hinside, List.length_singleton]
      · obtain ⟨cut, hcut⟩ : ∃ cut, run.stop = cut + 1 := by
          have hpos := hfits.pos
          exact ⟨run.stop - 1, by rw [Run.stop]; omega⟩
        have hbefore : run.start ≤ cut := by
          have hpos := hfits.pos
          rw [Run.stop] at hcut
          omega
        have hchange := h.agrees_succ_eq_false hcut.symm hmore
        have hnext := ih hrest hmore
        rw [hcut] at hmore hinside hnext
        rw [List.length_cons, hnext, changes_split hbefore hmore hchange, hinside]
        omega

end Changes

/-! ## Main statement -/

/-- The shape of the line that shows the first `count` positions of a row in the given runs:
its length in bytes, its spaces, its runs, and the places of its markers. -/
structure IsShaped (settings : Settings) (shown : Nat → Pixel) (count : Nat) (runs : List Run)
    (line : String) : Prop where
  size : line.utf8ByteSize =
    count + runs.length * settings.encoding.tokenLength + settings.encoding.terminator.length
  spaces : line.toList.count ' ' = count
  newline : '\n' ∉ line.toList
  changes : runs.length = 1 + changes settings.alphaCounts shown 0 count
  leads : occurrences settings.encoding.lead line.toList = runs.length
  first : settings.encoding.lead <+: line.toList
  terminators : occurrences settings.encoding.terminator line.toList = 1
  last : settings.encoding.terminator <:+ line.toList

theorem isShaped_lineOf {settings : Settings} {shown : Nat → Pixel} {count : Nat}
    {runs : List Run} (h : Tiles settings.alphaCounts shown 0 count runs) (hcount : 0 < count) :
    IsShaped settings shown count runs (String.ofList (lineOf settings runs)) := by
  have htotal : totalLength runs = count := by
    rw [← h.total, Nat.zero_add]
  have hruns : runs ≠ [] := by
    rw [ne_eq, h.eq_nil_iff]
    omega
  constructor
  · rw [utf8ByteSize_ofList fun c hc => utf8Size_of_mem_lineOf hc, length_lineOf, htotal]
  · rw [String.toList_ofList, count_space_lineOf, htotal]
  · rw [String.toList_ofList]
    exact newline_not_mem_lineOf settings runs
  · exact h.length_eq_changes hcount
  · rw [String.toList_ofList, occurrences_lead_lineOf]
  · rw [String.toList_ofList]
    exact lead_prefix_lineOf settings hruns
  · rw [String.toList_ofList, occurrences_terminator_lineOf]
  · rw [String.toList_ofList]
    exact List.suffix_append ..

namespace Image

/-- Every line that is rendered has the shape of its row and of the runs of the row. -/
theorem renderRow_isShaped {image : Image} {settings : Settings} {y : Nat} {line : String}
    (h : image.renderRow settings y = .ok line) :
    ∃ (hwidth : 0 < image.width) (hy : y < image.height) (runs : List Run),
      image.runs settings y = .ok runs ∧
        IsShaped settings (image.sampleAt y hwidth hy settings.scale)
          (columnCount image.width settings.scale) runs line := by
  obtain ⟨hrenders, hy, rfl⟩ := renderRow_eq_ok_iff.1 h
  refine ⟨hrenders.filled.1, hy, _, runs_eq_ok_iff.2 ⟨hrenders.filled, hy, rfl⟩, ?_⟩
  exact isShaped_lineOf (image.tiles_rowRuns settings y hrenders.filled.1 hy)
    (Nat.pos_of_ne_zero hrenders.columns)

theorem renderRow_isShaped_redGreen :
    redGreen.renderRow {} 0 = .ok "\\x1cffff00  \\x1c0000ff \\x19" ∧
      "\\x1cffff00  \\x1c0000ff \\x19".utf8ByteSize = 27 ∧
      "\\x1cffff00  \\x1c0000ff \\x19".toList.count ' ' = 3 ∧
      occurrences Encoding.escaped.lead "\\x1cffff00  \\x1c0000ff \\x19".toList = 2 ∧
      occurrences Encoding.escaped.terminator "\\x1cffff00  \\x1c0000ff \\x19".toList = 1 := by
  have hrow : redGreen.renderRow {} 0 = .ok "\\x1cffff00  \\x1c0000ff \\x19" := by
    decide +kernel
  have hruns : redGreen.runs {} 0 =
      .ok [⟨0, 2, ⟨255, 0, 0, 255⟩⟩, ⟨2, 1, ⟨0, 255, 0, 255⟩⟩] := by
    decide +kernel
  have hcount : columnCount redGreen.width defaultScale = 3 := by decide +kernel
  obtain ⟨_, _, runs, hok, hshaped⟩ := renderRow_isShaped hrow
  rw [hruns, Except.ok.injEq] at hok
  rw [hcount, ← hok] at hshaped
  exact ⟨hrow, hshaped.size, hshaped.spaces, hshaped.leads, hshaped.terminators⟩

end Image

end RasterText
