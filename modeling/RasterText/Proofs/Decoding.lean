import Mathlib.Data.List.Basic
import Mathlib.Data.List.TakeWhile
import RasterText.Token

/-!
# Reading text back

A page is a list of lines and a line a list of groups: a group is one triple and the
number of positions that show it.  A group is spelled by the lead, six lowercase
hexadecimal digits and one space for each position; the terminator and a newline end
a line.  The reader takes a text apart again and refuses every other text:
`readPage_eq_some_iff` says that it accepts exactly the spelled pages, each as the one
page it spells.
-/

namespace RasterText

/-! ## Pages -/

/-- A stretch of positions, at least one, that show the same triple. -/
structure Group where
  triple : Triple
  length : Nat
  pos : 0 < length
deriving DecidableEq

def tripleDigits (triple : Triple) : List Char :=
  hexPair triple.1 ++ hexPair triple.2.1 ++ hexPair triple.2.2

namespace Group

def text (encoding : Encoding) (group : Group) : List Char :=
  encoding.lead ++ tripleDigits group.triple ++ List.replicate group.length ' '

def triples (group : Group) : List Triple :=
  List.replicate group.length group.triple

end Group

def lineTriples (groups : List Group) : List Triple :=
  groups.flatMap Group.triples

def lineEnd (encoding : Encoding) : List Char :=
  encoding.terminator ++ ['\n']

def lineText (encoding : Encoding) (groups : List Group) : List Char :=
  groups.flatMap (Group.text encoding) ++ lineEnd encoding

def pageText (encoding : Encoding) (page : List (List Group)) : List Char :=
  page.flatMap (lineText encoding)

/-! ## The reader -/

def hexValue? (c : Char) : Option Nat :=
  if '0' ≤ c ∧ c ≤ '9' then some (c.toNat - '0'.toNat)
  else if 'a' ≤ c ∧ c ≤ 'f' then some (c.toNat - 'a'.toNat + 10)
  else none

def readByte : List Char → Option (UInt8 × List Char)
  | high :: low :: rest =>
    match hexValue? high, hexValue? low with
    | some h, some l => some (UInt8.ofNat (16 * h + l), rest)
    | _, _ => none
  | _ => none

def readTriple (text : List Char) : Option (Triple × List Char) := do
  let (first, text) ← readByte text
  let (second, text) ← readByte text
  let (third, text) ← readByte text
  return ((first, second, third), text)

def readGroup (encoding : Encoding) (text : List Char) : Option (Group × List Char) := do
  let text ← text.dropPrefix? encoding.lead
  let (triple, text) ← readTriple text
  if pos : 0 < (text.takeWhile (· == ' ')).length then
    return (⟨triple, _, pos⟩, text.dropWhile (· == ' '))
  else none

theorem hexValue?_digitChar : ∀ n < 16, hexValue? (Nat.digitChar n) = some n := by
  decide

theorem digitChar_of_hexValue? {c : Char} {n : Nat} (h : hexValue? c = some n) :
    n < 16 ∧ c = Nat.digitChar n := by
  have hlow : ∀ k < 10, Nat.digitChar k = Char.ofNat (k + 48) := by decide
  have hhigh : ∀ k < 6, Nat.digitChar (k + 10) = Char.ofNat (k + 97) := by decide
  unfold hexValue? at h
  split at h
  · rename_i hrange
    have hfrom : 48 ≤ c.toNat := hrange.1
    have hto : c.toNat ≤ 57 := hrange.2
    obtain rfl : c.toNat - 48 = n := by simpa using h
    refine ⟨by omega, ?_⟩
    rw [hlow _ (by omega), Nat.sub_add_cancel hfrom, Char.ofNat_toNat]
  · split at h
    · rename_i hrange
      have hfrom : 97 ≤ c.toNat := hrange.1
      have hto : c.toNat ≤ 102 := hrange.2
      obtain rfl : c.toNat - 97 + 10 = n := by simpa using h
      refine ⟨by omega, ?_⟩
      rw [hhigh _ (by omega), Nat.sub_add_cancel hfrom, Char.ofNat_toNat]
    · contradiction

theorem readByte_eq_some_iff {text rest : List Char} {byte : UInt8} :
    readByte text = some (byte, rest) ↔ text = hexPair byte ++ rest := by
  constructor
  · intro h
    unfold readByte at h
    split at h
    · split at h
      · rename_i high low _ h₁ h₂ hhigh hlow
        obtain ⟨hlt₁, rfl⟩ := digitChar_of_hexValue? hhigh
        obtain ⟨hlt₂, rfl⟩ := digitChar_of_hexValue? hlow
        obtain ⟨rfl, rfl⟩ : UInt8.ofNat (16 * h₁ + h₂) = byte ∧ _ = rest := by
          simpa using h
        have hvalue : (UInt8.ofNat (16 * h₁ + h₂)).toNat = 16 * h₁ + h₂ :=
          UInt8.toNat_ofNat_of_lt' (by simp only [UInt8.size]; omega)
        have hdiv : (16 * h₁ + h₂) / 16 = h₁ := by omega
        have hmod : (16 * h₁ + h₂) % 16 = h₂ := by omega
        rw [hexPair, hvalue, hdiv, hmod]
        rfl
      · contradiction
    · contradiction
  · rintro rfl
    have hbyte : byte.toNat < 256 := byte.toNat_lt
    simp only [hexPair, List.cons_append, List.nil_append, readByte,
      hexValue?_digitChar (byte.toNat / 16) (by omega),
      hexValue?_digitChar (byte.toNat % 16) (by omega)]
    rw [Nat.div_add_mod, UInt8.ofNat_toNat]

theorem readTriple_eq_some_iff {text rest : List Char} {triple : Triple} :
    readTriple text = some (triple, rest) ↔ text = tripleDigits triple ++ rest := by
  obtain ⟨first, second, third⟩ := triple
  simp only [readTriple, tripleDigits, Option.bind_eq_bind, Option.bind_eq_some_iff,
    Option.pure_def, Option.some.injEq, Prod.exists, Prod.mk.injEq, readByte_eq_some_iff]
  constructor
  · rintro ⟨_, _, rfl, _, _, rfl, _, _, rfl, ⟨rfl, rfl, rfl⟩, rfl⟩
    simp only [List.append_assoc]
  · rintro rfl
    rw [List.append_assoc, List.append_assoc]
    exact ⟨first, _, rfl, second, _, rfl, third, rest, rfl, ⟨rfl, rfl, rfl⟩, rfl⟩

/-! ## Groups -/

theorem takeWhile_replicate_append {α : Type} [BEq α] [LawfulBEq α] (a : α) (n : Nat)
    {rest : List α} (hrest : rest.head? ≠ some a) :
    (List.replicate n a ++ rest).takeWhile (· == a) = List.replicate n a := by
  have hnone : rest.takeWhile (· == a) = [] := by
    cases rest with
    | nil => rfl
    | cons b rest =>
        have hb : b ≠ a := by simpa using hrest
        simp [hb]
  rw [List.takeWhile_append_of_pos (by simp), hnone, List.append_nil]

theorem dropWhile_replicate_append {α : Type} [BEq α] [LawfulBEq α] (a : α) (n : Nat)
    {rest : List α} (hrest : rest.head? ≠ some a) :
    (List.replicate n a ++ rest).dropWhile (· == a) = rest := by
  have hsplit := List.takeWhile_append_dropWhile (p := (· == a)) (l := List.replicate n a ++ rest)
  rw [takeWhile_replicate_append a n hrest] at hsplit
  exact List.append_cancel_left hsplit

theorem head?_dropWhile_spaces (text : List Char) :
    (text.dropWhile (· == ' ')).head? ≠ some ' ' := by
  intro h
  have := List.head?_dropWhile_not (· == ' ') text
  simp [h] at this

theorem takeWhile_spaces_eq_replicate (text : List Char) :
    text.takeWhile (· == ' ') = List.replicate (text.takeWhile (· == ' ')).length ' ' := by
  apply List.eq_replicate_of_mem
  intro c hc
  simpa using List.mem_takeWhile_imp hc

theorem readGroup_eq_some_iff {encoding : Encoding} {text rest : List Char} {group : Group} :
    readGroup encoding text = some (group, rest) ↔
      text = group.text encoding ++ rest ∧ rest.head? ≠ some ' ' := by
  obtain ⟨triple, length, hpos⟩ := group
  simp only [readGroup, Option.bind_eq_bind, Option.bind_eq_some_iff,
    List.dropPrefix?_eq_some_iff, beq_iff_eq]
  constructor
  · rintro ⟨_, ⟨_, rfl, rfl⟩, ⟨shown, spaces⟩, hshown, h⟩
    obtain rfl := readTriple_eq_some_iff.1 hshown
    split at h
    · simp only [Option.pure_def, Option.some.injEq, Prod.mk.injEq, Group.mk.injEq] at h
      obtain ⟨⟨rfl, rfl⟩, rfl⟩ := h
      refine ⟨?_, head?_dropWhile_spaces spaces⟩
      simp only [Group.text, ← takeWhile_spaces_eq_replicate, List.append_assoc,
        List.takeWhile_append_dropWhile]
    · contradiction
  · rintro ⟨rfl, hrest⟩
    refine ⟨tripleDigits triple ++ (List.replicate length ' ' ++ rest), ⟨_, ?_, rfl⟩,
      ⟨triple, _⟩, readTriple_eq_some_iff.2 rfl, ?_⟩
    · simp only [Group.text, List.append_assoc]
    · simp [takeWhile_replicate_append _ _ hrest, dropWhile_replicate_append _ _ hrest, hpos]

/-! ## Lines and pages -/

theorem length_of_readGroup {encoding : Encoding} {text rest : List Char} {group : Group}
    (h : readGroup encoding text = some (group, rest)) : rest.length < text.length := by
  obtain ⟨rfl, -⟩ := readGroup_eq_some_iff.1 h
  have hpos := group.pos
  simp only [Group.text, List.length_append, List.length_replicate]
  omega

def readLine (encoding : Encoding) (text : List Char) : Option (List Group × List Char) :=
  match h : readGroup encoding text with
  | none => none
  | some (group, rest) =>
    match rest.dropPrefix? (lineEnd encoding) with
    | some after => some ([group], after)
    | none =>
      have := length_of_readGroup h
      (readLine encoding rest).map fun (groups, after) => (group :: groups, after)
termination_by text.length

theorem head?_line_ne_space (encoding : Encoding) (groups : List Group) (rest : List Char) :
    (lineText encoding groups ++ rest).head? ≠ some ' ' := by
  cases groups with
  | nil => cases encoding <;> simp [lineText, lineEnd, Encoding.terminator]
  | cons group groups =>
      cases encoding <;> simp [lineText, Group.text, Encoding.lead]

theorem dropPrefix?_lineEnd_group (encoding : Encoding) (group : Group) (rest : List Char) :
    (group.text encoding ++ rest).dropPrefix? (lineEnd encoding) = none := by
  cases encoding <;>
    simp [List.dropPrefix?, lineEnd, Group.text, Encoding.lead, Encoding.terminator]

theorem readLine_of_last {encoding : Encoding} {text rest after : List Char} {group : Group}
    (hgroup : readGroup encoding text = some (group, rest))
    (hend : rest.dropPrefix? (lineEnd encoding) = some after) :
    readLine encoding text = some ([group], after) := by
  rw [readLine]
  split
  · simp_all
  · simp_all

theorem readLine_of_more {encoding : Encoding} {text rest after : List Char} {group : Group}
    {groups : List Group} (hgroup : readGroup encoding text = some (group, rest))
    (hend : rest.dropPrefix? (lineEnd encoding) = none)
    (hline : readLine encoding rest = some (groups, after)) :
    readLine encoding text = some (group :: groups, after) := by
  rw [readLine]
  split
  · simp_all
  · simp_all

theorem readGroup_lineText (encoding : Encoding) (group : Group) (groups : List Group)
    (rest : List Char) :
    readGroup encoding (lineText encoding (group :: groups) ++ rest) =
      some (group, lineText encoding groups ++ rest) := by
  rw [readGroup_eq_some_iff]
  refine ⟨?_, head?_line_ne_space encoding groups rest⟩
  simp only [lineText, List.flatMap_cons, List.append_assoc]

theorem readLine_lineText (encoding : Encoding) (group : Group) (groups : List Group)
    (rest : List Char) :
    readLine encoding (lineText encoding (group :: groups) ++ rest) =
      some (group :: groups, rest) := by
  induction groups generalizing group with
  | nil =>
      apply readLine_of_last (readGroup_lineText encoding group [] rest)
      exact List.dropPrefix?_append_of_beq rest (beq_self_eq_true _)
  | cons next groups ih =>
      apply readLine_of_more (readGroup_lineText encoding group (next :: groups) rest) _ (ih next)
      rw [lineText, List.flatMap_cons, List.append_assoc, List.append_assoc]
      exact dropPrefix?_lineEnd_group encoding next _

theorem lineText_injective {encoding : Encoding} {a b : List Group} (ha : a ≠ [])
    (hb : b ≠ []) (h : lineText encoding a = lineText encoding b) : a = b := by
  cases a with
  | nil => contradiction
  | cons group groups =>
      cases b with
      | nil => contradiction
      | cons group' groups' =>
          have hread := readLine_lineText encoding group groups []
          rw [h, readLine_lineText encoding group' groups' []] at hread
          simpa using hread.symm

theorem lineText_of_readLine {encoding : Encoding} {text rest : List Char}
    {groups : List Group} (h : readLine encoding text = some (groups, rest)) :
    groups ≠ [] ∧ text = lineText encoding groups ++ rest := by
  fun_induction readLine encoding text generalizing groups with
  | case1 => contradiction
  | case2 text group after hgroup rest' hend =>
      obtain ⟨rfl, rfl⟩ : [group] = groups ∧ rest' = rest := by simpa using h
      obtain ⟨rfl, -⟩ := readGroup_eq_some_iff.1 hgroup
      obtain ⟨_, rfl, hmarker⟩ := List.dropPrefix?_eq_some_iff.1 hend
      obtain rfl := eq_of_beq hmarker
      simp [lineText]
  | case3 text group after hgroup hend _ ih =>
      obtain ⟨⟨groups', rest'⟩, hline, hpair⟩ := Option.map_eq_some_iff.1 h
      obtain ⟨rfl, rfl⟩ : group :: groups' = groups ∧ rest' = rest := by simpa using hpair
      obtain ⟨rfl, -⟩ := readGroup_eq_some_iff.1 hgroup
      obtain ⟨-, rfl⟩ := ih hline
      simp [lineText]

theorem length_of_readLine {encoding : Encoding} {text rest : List Char}
    {groups : List Group} (h : readLine encoding text = some (groups, rest)) :
    rest.length < text.length := by
  obtain ⟨-, rfl⟩ := lineText_of_readLine h
  simp only [lineText, lineEnd, List.length_append, List.length_singleton]
  omega

def readPage (encoding : Encoding) (text : List Char) : Option (List (List Group)) :=
  if text = [] then some []
  else
    match h : readLine encoding text with
    | none => none
    | some (groups, rest) =>
      have := length_of_readLine h
      (readPage encoding rest).map (groups :: ·)
termination_by text.length

theorem readPage_of_line {encoding : Encoding} {text rest : List Char} {groups : List Group}
    {page : List (List Group)} (hline : readLine encoding text = some (groups, rest))
    (hpage : readPage encoding rest = some page) :
    readPage encoding text = some (groups :: page) := by
  have hshorter := length_of_readLine hline
  have hne : text ≠ [] := by
    rintro rfl
    simp at hshorter
  rw [readPage, if_neg hne]
  split
  · simp_all
  · simp_all

theorem readPage_pageText (encoding : Encoding) {page : List (List Group)}
    (hpage : [] ∉ page) : readPage encoding (pageText encoding page) = some page := by
  induction page with
  | nil => simp [readPage, pageText]
  | cons groups page ih =>
      have hrest : [] ∉ page := fun h => hpage (List.mem_cons_of_mem _ h)
      cases groups with
      | nil => simp at hpage
      | cons group groups =>
          rw [pageText, List.flatMap_cons]
          exact readPage_of_line (readLine_lineText encoding group groups _) (ih hrest)

theorem readPage_eq_some_iff {encoding : Encoding} {text : List Char}
    {page : List (List Group)} :
    readPage encoding text = some page ↔ text = pageText encoding page ∧ [] ∉ page := by
  constructor
  · intro h
    fun_induction readPage encoding text generalizing page with
    | case1 => simp_all [pageText]
    | case2 => contradiction
    | case3 text _ groups rest hline _ ih =>
        obtain ⟨page', hpage, rfl⟩ := Option.map_eq_some_iff.1 h
        obtain ⟨hgroups, rfl⟩ := lineText_of_readLine hline
        obtain ⟨rfl, hrest⟩ := ih hpage
        refine ⟨by simp [pageText], ?_⟩
        simp [hrest, hgroups.symm]
  · rintro ⟨rfl, hpage⟩
    exact readPage_pageText encoding hpage

def decode (encoding : Encoding) (text : List Char) : Option (List (List Triple)) :=
  (readPage encoding text).map (List.map lineTriples)

theorem decode_eq_some_iff {encoding : Encoding} {text : List Char}
    {rows : List (List Triple)} :
    decode encoding text = some rows ↔
      ∃ page, text = pageText encoding page ∧ [] ∉ page ∧ page.map lineTriples = rows := by
  simp only [decode, Option.map_eq_some_iff, readPage_eq_some_iff, and_assoc]

example : decode .escaped "\\x1cffff00  \\x1c0000ff \\x19\n".toList =
    some [[(255, 255, 0), (255, 255, 0), (0, 0, 255)]] := by
  decide +kernel

end RasterText
