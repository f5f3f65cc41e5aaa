import Mathlib.Algebra.BigOperators.Group.List.Basic
import Mathlib.Data.List.GetD
import RasterText.Proofs.RoundTrip
import RasterText.Proofs.SampledColumns

/-!
# Lossless settings

At scale one, with all three channels shown and alpha ignored, rendering loses nothing
but alpha.  Its texts are the canonical ones: lines of one width whose neighbouring
groups differ.  Rendering and decoding are inverse to each other between the two.
-/

namespace RasterText

/-- One. -/
def unitScale : Binary64 := .finite false 0x10000000000000 (-52) (by decide)

def losslessSettings (encoding : Encoding) : Settings where
  scale := unitScale
  layout := .rgb
  encoding := encoding
  alphaCounts := false

/-! ## Sampling at scale one -/

theorem hasValue_unitScale : unitScale.HasValue 1 :=
  ⟨0x10000000000000, -52, _, rfl, by norm_num⟩

theorem columnCount_unitScale {width : Nat} (h : width ≤ extentLimit) :
    columnCount width unitScale = width :=
  columnCount_of_hasValue_one hasValue_unitScale h

theorem sampledColumn_unitScale {x width : Nat} (hx : x < width) (h : width ≤ extentLimit) :
    sampledColumn x width unitScale = x :=
  sampledColumn_of_hasValue_one hasValue_unitScale hx h

namespace Image

def colors (image : Image) : List (List Triple) :=
  List.ofFn fun y : Fin image.height => List.ofFn fun x : Fin image.width =>
    Layout.rgb.triple (image.pixel x y (image.column_lt x) (image.row_lt y))

theorem shownRows_lossless (image : Image) (encoding : Encoding) (hwidth : 0 < image.width) :
    image.shownRows (losslessSettings encoding) hwidth = image.colors := by
  have hcount := columnCount_unitScale image.width_le
  rw [shownRows, colors]
  congr 1
  funext y
  apply List.ext_getElem
  · rw [List.length_map, length_samples, List.length_ofFn]
    exact hcount
  · intro x _ hx
    rw [List.length_ofFn] at hx
    have hcolumn := sampledColumn_unitScale hx image.width_le
    simp only [List.getElem_map, samples, List.getElem_range, List.getElem_ofFn]
    simp only [losslessSettings, hcolumn]

theorem renders_lossless {image : Image} (h : image.IsFilled) (encoding : Encoding) :
    image.Renders (losslessSettings encoding) where
  accepted := by cases encoding <;> decide
  filled := h
  columns := by
    rw [losslessSettings, columnCount_unitScale image.width_le]
    exact h.1.ne'

/-! ## Images from colours -/

def generate (width height : Nat) (color : Nat → Nat → Pixel) (hwidth : width ≤ extentLimit)
    (hheight : height ≤ extentLimit) : Image where
  width := width
  height := height
  pixels := Array.ofFn fun i : Fin (width * height) => color (i % width) (i / width)
  size_eq := Array.size_ofFn
  width_le := hwidth
  height_le := hheight

theorem pixel_generate {width height : Nat} (color : Nat → Nat → Pixel)
    (hwidth : width ≤ extentLimit) (hheight : height ≤ extentLimit) {x y : Nat}
    (hx : x < width) (hy : y < height) :
    (generate width height color hwidth hheight).pixel x y hx hy = color x y := by
  simp only [pixel, generate, Array.getElem_ofFn, index_div hx, index_mod hx]

/-- The image with the given rows of colours, if they are of one length; `alpha` chooses
the alpha of each pixel. -/
def ofColors? (alpha : Nat → Nat → UInt8) (rows : List (List Triple)) : Option Image :=
  let width := (rows.headD []).length
  let color x y : Pixel :=
    let (red, green, blue) := (rows.getD y []).getD x (0, 0, 0)
    ⟨red, green, blue, alpha x y⟩
  if fits : width ≤ extentLimit ∧ rows.length ≤ extentLimit ∧ ∀ row ∈ rows, row.length = width then
    some (generate width rows.length color fits.1 fits.2.1)
  else none

theorem colors_of_ofColors? {alpha : Nat → Nat → UInt8} {rows : List (List Triple)}
    {image : Image} (h : ofColors? alpha rows = some image) : image.colors = rows := by
  simp only [ofColors?, Option.dite_none_right_eq_some, Option.some.injEq] at h
  obtain ⟨⟨hwidth, hheight, heven⟩, rfl⟩ := h
  apply List.ext_getElem
  · simp [colors, generate]
  · intro y _ hy
    apply List.ext_getElem
    · simp [colors, generate, heven _ (List.getElem_mem hy)]
    · intro x _ hx
      have hx' : x < (rows.headD []).length := by
        rw [← heven _ (List.getElem_mem hy)]
        exact hx
      simp only [colors, List.getElem_ofFn]
      rw [pixel_generate _ hwidth hheight hx' hy, List.getD_eq_getElem _ _ hy,
        List.getD_eq_getElem _ _ hx]
      rfl

end Image

/-! ## Canonical texts -/

def lineWidth (groups : List Group) : Nat :=
  (groups.map Group.length).sum

/-- No two neighbouring groups of a line show the same triple. -/
def IsMaximal (groups : List Group) : Prop :=
  groups.IsChain fun a b => a.triple ≠ b.triple

structure IsCanonicalPage (page : List (List Group)) (width : Nat) : Prop where
  height_pos : 0 < page.length
  height_le : page.length ≤ extentLimit
  width_pos : 0 < width
  width_le : width ≤ extentLimit
  even : ∀ groups ∈ page, lineWidth groups = width
  maximal : ∀ groups ∈ page, IsMaximal groups

def IsCanonicalText (encoding : Encoding) (text : List Char) : Prop :=
  ∃ page width, IsCanonicalPage page width ∧ text = pageText encoding page

theorem length_lineTriples (groups : List Group) :
    (lineTriples groups).length = lineWidth groups := by
  rw [lineTriples, List.length_flatMap, lineWidth]
  simp only [Group.triples, List.length_replicate]

theorem IsCanonicalPage.nil_not_mem {page : List (List Group)} {width : Nat}
    (h : IsCanonicalPage page width) : [] ∉ page := by
  intro hmem
  have hwidth := h.even [] hmem
  have hpos := h.width_pos
  simp [lineWidth] at hwidth
  omega

theorem head?_lineTriples (groups : List Group) :
    (lineTriples groups).head? = groups.head?.map Group.triple := by
  cases groups with
  | nil => rfl
  | cons group groups =>
      have hpos := group.pos
      rw [lineTriples, List.flatMap_cons, Group.triples, List.head?_append,
        List.head?_replicate, if_neg (by omega)]
      rfl

theorem lineTriples_cons (group : Group) (groups : List Group) :
    lineTriples (group :: groups) =
      List.replicate group.length group.triple ++ lineTriples groups := rfl

/-- What follows a group of a maximal line does not go on with its triple. -/
theorem IsMaximal.head?_ne {group : Group} {groups : List Group}
    (h : IsMaximal (group :: groups)) : (lineTriples groups).head? ≠ some group.triple := by
  rw [head?_lineTriples]
  intro hhead
  obtain ⟨next, hnext, htriple⟩ := Option.map_eq_some_iff.1 hhead
  exact (List.isChain_cons.1 h).1 next hnext htriple.symm

theorem replicate_append_inj {t : Triple} {n m : Nat} {a b : List Triple}
    (ha : a.head? ≠ some t) (hb : b.head? ≠ some t)
    (h : List.replicate n t ++ a = List.replicate m t ++ b) : n = m ∧ a = b := by
  constructor
  · have hfront := congrArg (List.takeWhile (· == t)) h
    rw [takeWhile_replicate_append _ _ ha, takeWhile_replicate_append _ _ hb] at hfront
    simpa using congrArg List.length hfront
  · have hback := congrArg (List.dropWhile (· == t)) h
    rwa [dropWhile_replicate_append _ _ ha, dropWhile_replicate_append _ _ hb] at hback

/-- The triples of a line determine its groups if these are maximal. -/
theorem IsMaximal.ext {a b : List Group} (ha : IsMaximal a) (hb : IsMaximal b)
    (h : lineTriples a = lineTriples b) : a = b := by
  induction a generalizing b with
  | nil =>
      have hhead := head?_lineTriples b
      rw [← h] at hhead
      cases b with
      | nil => rfl
      | cons group b => simp [lineTriples] at hhead
  | cons g a ih =>
      have hhead := head?_lineTriples b
      rw [← h, head?_lineTriples] at hhead
      cases b with
      | nil => simp at hhead
      | cons k b =>
          have htriple : g.triple = k.triple := by simpa using hhead
          have hnext := hb.head?_ne
          rw [lineTriples_cons, lineTriples_cons, ← htriple] at h
          rw [← htriple] at hnext
          obtain ⟨hlength, hrest⟩ := replicate_append_inj ha.head?_ne hnext h
          have hgroup : g = k := by
            cases g
            cases k
            simp_all
          rw [hgroup, ih (List.isChain_cons.1 ha).2 (List.isChain_cons.1 hb).2 hrest]

theorem isMaximal_sampleGroups (samples : List Pixel) :
    IsMaximal (sampleGroups .rgb false samples) := by
  have hchain := isChain_runsOf false samples
  refine List.isChain_pmap_of_isChain ?_ hchain _
  intro a b _ _ hdiffers htriple
  simp only [Run.group, Layout.triple, Prod.mk.injEq] at htriple
  simp [Pixel.agrees, htriple] at hdiffers

theorem IsCanonicalPage.length_of_mem_map {page : List (List Group)} {width : Nat}
    (h : IsCanonicalPage page width) : ∀ row ∈ page.map lineTriples, row.length = width := by
  intro row hrow
  obtain ⟨groups, hgroups, rfl⟩ := List.mem_map.1 hrow
  rw [length_lineTriples, h.even groups hgroups]

theorem IsCanonicalPage.ext {a b : List (List Group)} {width width' : Nat}
    (ha : IsCanonicalPage a width) (hb : IsCanonicalPage b width')
    (h : a.map lineTriples = b.map lineTriples) : a = b := by
  have hlength : a.length = b.length := by simpa using congrArg List.length h
  apply List.ext_getElem hlength
  intro y hya hyb
  refine (ha.maximal _ (List.getElem_mem hya)).ext (hb.maximal _ (List.getElem_mem hyb)) ?_
  have hrow := List.getElem_of_eq h (by rwa [List.length_map])
  rwa [List.getElem_map, List.getElem_map] at hrow

namespace Image

theorem isCanonicalPage_page {image : Image} (h : image.IsFilled) (encoding : Encoding) :
    IsCanonicalPage (image.page (losslessSettings encoding) h.1) image.width where
  height_pos := by
    rw [page, List.length_ofFn]
    exact h.2
  height_le := by
    rw [page, List.length_ofFn]
    exact image.height_le
  width_pos := h.1
  width_le := image.width_le
  even := by
    intro groups hgroups
    obtain ⟨y, rfl⟩ := List.mem_ofFn.1 hgroups
    rw [← length_lineTriples, lineTriples_sampleGroups, List.length_map, length_samples]
    exact columnCount_unitScale image.width_le
  maximal := by
    intro groups hgroups
    obtain ⟨y, rfl⟩ := List.mem_ofFn.1 hgroups
    exact isMaximal_sampleGroups _

/-- Every empty sink without a limit takes the text, and nothing else, from a write. -/
def Writes (image : Image) (settings : Settings) (text : String) : Prop :=
  ∀ sink : Sink, sink.IsUnlimited → sink.accepted = #[] →
    (image.write settings sink).error? = none ∧
      (image.write settings sink).sink.text? = some text

theorem writes_of_render {image : Image} {settings : Settings} {lines : List String}
    (h : image.render settings = .ok lines) : image.Writes settings (Text.unlines lines) := by
  intro sink hsink hempty
  obtain ⟨hnone, haccepted, -⟩ := write_of_isUnlimited hsink h
  exact ⟨hnone, Sink.text?_of_accepted hempty haccepted⟩

theorem writes_lossless {image : Image} (h : image.IsFilled) (encoding : Encoding) :
    image.Writes (losslessSettings encoding)
      (String.ofList (pageText encoding (image.page (losslessSettings encoding) h.1))) := by
  have hrender := render_eq_ok_iff.2 ⟨renders_lossless h encoding, rfl⟩
  obtain ⟨_, htext⟩ := toList_unlines_of_render hrender
  have hwrites := writes_of_render hrender
  rwa [← String.ofList_toList (s := Text.unlines _), htext] at hwrites

theorem ofColors?_eq_some {rows : List (List Triple)} {width : Nat}
    (alpha : Nat → Nat → UInt8) (hne : rows ≠ []) (hwidth : width ≤ extentLimit)
    (hheight : rows.length ≤ extentLimit) (heven : ∀ row ∈ rows, row.length = width) :
    ∃ image, ofColors? alpha rows = some image ∧ image.width = width ∧
      image.height = rows.length := by
  have hhead : (rows.headD []).length = width := by
    cases rows with
    | nil => contradiction
    | cons row rows => exact heven row List.mem_cons_self
  refine ⟨_, dif_pos ?_, hhead, rfl⟩
  rw [hhead]
  exact ⟨hwidth, hheight, heven⟩

/-- Rendering and decoding are inverse to each other between the images with pixels, up
to alpha, and the canonical texts. -/
theorem lossless_correspondence (encoding : Encoding) :
    (∀ image : Image, image.IsFilled →
      ∃ text, image.Writes (losslessSettings encoding) text ∧
        IsCanonicalText encoding text.toList ∧
        decode encoding text.toList = some image.colors) ∧
    ∀ text : String, IsCanonicalText encoding text.toList →
      ∀ alpha : Nat → Nat → UInt8,
        ∃ image, (decode encoding text.toList).bind (ofColors? alpha) = some image ∧
          image.Writes (losslessSettings encoding) text := by
  constructor
  · intro image h
    have hpage := isCanonicalPage_page h encoding
    refine ⟨_, writes_lossless h encoding, ⟨_, _, hpage, String.toList_ofList⟩, ?_⟩
    rw [String.toList_ofList, decode_eq_some_iff]
    refine ⟨_, rfl, hpage.nil_not_mem, ?_⟩
    rw [map_lineTriples_page, shownRows_lossless]
  · rintro text ⟨page, width, hpage, htext⟩ alpha
    have hdecode : decode encoding text.toList = some (page.map lineTriples) :=
      decode_eq_some_iff.2 ⟨page, htext, hpage.nil_not_mem, rfl⟩
    obtain ⟨image, himage, hwidth, hheight⟩ := ofColors?_eq_some alpha
      (by simpa [List.length_pos_iff] using hpage.height_pos) hpage.width_le
      (by simpa using hpage.height_le) hpage.length_of_mem_map
    have hfilled : image.IsFilled := by
      rw [IsFilled, hwidth, hheight, List.length_map]
      exact ⟨hpage.width_pos, hpage.height_pos⟩
    -- Both pages are maximal and show the same triples, so they are one page.
    have hsame : image.page (losslessSettings encoding) hfilled.1 = page := by
      apply (isCanonicalPage_page hfilled encoding).ext hpage
      rw [map_lineTriples_page, shownRows_lossless, colors_of_ofColors? himage]
    have hwrites := writes_lossless hfilled encoding
    rw [hsame, ← htext, String.ofList_toList] at hwrites
    refine ⟨image, ?_, hwrites⟩
    rw [hdecode, Option.bind_some, himage]

theorem isCanonicalText_greyBlack :
    IsCanonicalText .raw "\x1c808080  \x1c000000 \x19\n".toList := by
  refine ⟨[[⟨(128, 128, 128), 2, by decide⟩, ⟨(0, 0, 0), 1, by decide⟩]], 3, ?_, by decide⟩
  constructor <;> simp [lineWidth, IsMaximal, extentLimit]

theorem lossless_correspondence_redGreen :
    (∃ text, redGreen.Writes (losslessSettings .escaped) text ∧
      decode .escaped text.toList = some [[(255, 0, 0), (0, 255, 0)]]) ∧
    ∃ image : Image, image.Writes (losslessSettings .raw) "\x1c808080  \x1c000000 \x19\n" := by
  constructor
  · obtain ⟨text, hwrites, -, hdecode⟩ :=
      (lossless_correspondence .escaped).1 redGreen (by decide)
    exact ⟨text, hwrites, hdecode⟩
  · obtain ⟨image, -, hwrites⟩ :=
      (lossless_correspondence .raw).2 _ isCanonicalText_greyBlack fun x _ => UInt8.ofNat x
    exact ⟨image, hwrites⟩

end Image

end RasterText
