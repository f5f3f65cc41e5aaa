import Mathlib.Data.List.DropRight
import RasterText.FileTree

/-!
# What a new file changes in a tree

A file is created where the place above it is a directory and no directory stands at its
own place.  Then the new tree differs from the old one at that place alone
(`find?_put_of_ne`), every path leads where it led before (`walk_put`), and the path of
the file leads to it (`resolve_put`).
-/

namespace RasterText.FileTree

structure IsOpen (tree : FileTree) (place : List String) : Prop where
  ne_nil : place ≠ []
  holder : tree.hasDirectory place.dropLast = true
  vacant : tree.hasDirectory place = false

theorem hasDirectory_eq_true_iff {tree : FileTree} {names : List String} :
    tree.hasDirectory names = true ↔ tree.find? names = some .directory := by
  unfold hasDirectory
  cases tree.find? names with
  | none => simp
  | some entry => cases entry <;> simp [Entry.isDirectory]

theorem find?_of_isPrefixOf {tree : FileTree} {names : List String}
    (h : names.isPrefixOf tree.workingDirectory = true) :
    tree.find? names = some .directory := by
  simp [find?, h]

theorem any_isPrefixOf_eq_true_iff {entries : List (List String × Entry)}
    {names : List String} :
    (entries.any fun (longer, _) => names.isPrefixOf longer) = true ↔
      ∃ entry ∈ entries, names <+: entry.1 := by
  simp only [List.any_eq_true, List.isPrefixOf_iff_prefix]

/-- What lies above a directory, and not above the working directory, is named by an
entry. -/
theorem exists_entry_of_hasDirectory {tree : FileTree} {above names : List String}
    (hdirectory : tree.hasDirectory names = true) (habove : above <+: names)
    (houtside : ¬ above.isPrefixOf tree.workingDirectory = true) :
    ∃ entry ∈ tree.entries, above <+: entry.1 := by
  rw [hasDirectory_eq_true_iff] at hdirectory
  unfold find? at hdirectory
  split at hdirectory
  · rename_i hworking
    have hprefix := habove.trans (List.isPrefixOf_iff_prefix.1 hworking)
    exact absurd (List.isPrefixOf_iff_prefix.2 hprefix) houtside
  · split at hdirectory
    · rename_i entry hlookup
      have hsome : (tree.entries.lookup names).isSome = true := by rw [hlookup]; rfl
      obtain ⟨entry, hmem, hnames⟩ := List.lookup_isSome_iff.1 hsome
      exact ⟨entry, hmem, eq_of_beq hnames ▸ habove⟩
    · split at hdirectory
      · rename_i hany
        obtain ⟨entry, hmem, hprefix⟩ := any_isPrefixOf_eq_true_iff.1 hany
        exact ⟨entry, hmem, habove.trans hprefix⟩
      · contradiction

theorem lookup_filter_ne (entries : List (List String × Entry)) {place other : List String}
    (h : other ≠ place) :
    (entries.filter fun (names, _) => names ≠ place).lookup other = entries.lookup other := by
  induction entries with
  | nil => rfl
  | cons entry entries ih =>
      obtain ⟨names, held⟩ := entry
      by_cases hnames : names = place
      · have hskip : (other == names) = false := by simpa [hnames] using h
        rw [List.filter_cons_of_neg (by simp [hnames]), List.lookup_cons, hskip]
        exact ih
      · rw [List.filter_cons_of_pos (by simp [hnames]), List.lookup_cons, List.lookup_cons, ih]

@[simp] theorem workingDirectory_put (tree : FileTree) (place : List String)
    (content : List UInt8) : (tree.put place content).workingDirectory = tree.workingDirectory :=
  rfl

theorem IsOpen.find?_put {tree : FileTree} {place : List String} (h : tree.IsOpen place)
    (content : List UInt8) : (tree.put place content).find? place = some (.file content) := by
  have houtside : ¬ place.isPrefixOf tree.workingDirectory = true := by
    intro hworking
    have hdirectory := hasDirectory_eq_true_iff.2 (find?_of_isPrefixOf hworking)
    simp [h.vacant] at hdirectory
  rw [find?, workingDirectory_put, if_neg houtside]
  simp [put]

theorem IsOpen.prefix_dropLast {tree : FileTree} {place above : List String}
    (h : tree.IsOpen place) (habove : above <+: place) (hne : above ≠ place) :
    above <+: place.dropLast := by
  rw [← List.dropLast_append_getLast h.ne_nil] at habove hne
  exact (List.prefix_concat_iff.1 habove).resolve_left hne

theorem IsOpen.exists_entry_put_iff {tree : FileTree} {place other : List String}
    (h : tree.IsOpen place) (content : List UInt8) (hother : other ≠ place)
    (houtside : ¬ other.isPrefixOf tree.workingDirectory = true) :
    (∃ entry ∈ (tree.put place content).entries, other <+: entry.1) ↔
      ∃ entry ∈ tree.entries, other <+: entry.1 := by
  constructor
  · rintro ⟨entry, hmem, hprefix⟩
    rcases List.mem_cons.1 hmem with rfl | hmem
    · exact exists_entry_of_hasDirectory h.holder (h.prefix_dropLast hprefix hother) houtside
    · exact ⟨entry, (List.mem_filter.1 hmem).1, hprefix⟩
  · rintro ⟨entry, hmem, hprefix⟩
    by_cases hentry : entry.1 = place
    · exact ⟨_, List.mem_cons_self, hentry ▸ hprefix⟩
    · refine ⟨entry, List.mem_cons_of_mem _ (List.mem_filter.2 ⟨hmem, ?_⟩), hprefix⟩
      simpa using hentry

theorem IsOpen.find?_put_of_ne {tree : FileTree} {place other : List String}
    (h : tree.IsOpen place) (content : List UInt8) (hother : other ≠ place) :
    (tree.put place content).find? other = tree.find? other := by
  by_cases hworking : other.isPrefixOf tree.workingDirectory = true
  · rw [find?_of_isPrefixOf hworking]
    exact find?_of_isPrefixOf hworking
  · have hlookup :
        (tree.put place content).entries.lookup other = tree.entries.lookup other := by
      have hskip : (other == place) = false := by simpa using hother
      rw [put, List.lookup_cons, hskip]
      exact lookup_filter_ne tree.entries hother
    have hany : ((tree.put place content).entries.any fun (longer, _) =>
          other.isPrefixOf longer) =
        tree.entries.any fun (longer, _) => other.isPrefixOf longer := by
      rw [Bool.eq_iff_iff, any_isPrefixOf_eq_true_iff, any_isPrefixOf_eq_true_iff]
      exact h.exists_entry_put_iff content hother hworking
    rw [find?, find?, workingDirectory_put, if_neg hworking, if_neg hworking, hlookup, hany]

theorem IsOpen.hasDirectory_put {tree : FileTree} {place : List String}
    (h : tree.IsOpen place) (content : List UInt8) (names : List String) :
    (tree.put place content).hasDirectory names = tree.hasDirectory names := by
  by_cases hnames : names = place
  · subst hnames
    rw [h.vacant, hasDirectory, h.find?_put]
    rfl
  · rw [hasDirectory, hasDirectory, h.find?_put_of_ne content hnames]

theorem step_eq_ok_iff {tree : FileTree} {start next : List String} {name : String} :
    tree.step start name = .ok next ↔
      tree.hasDirectory start = true ∧
        if name = "" ∨ name = "." then start = next
        else if name = ".." then start.dropLast = next
        else name.utf8ByteSize ≤ nameLimit ∧
          (tree.find? (start ++ [name])).isSome = true ∧ start ++ [name] = next := by
  unfold step
  by_cases hdirectory : tree.hasDirectory start = true
  · by_cases hdot : name = "" ∨ name = "."
    · simp [hdirectory, hdot]
    · by_cases hup : name = ".."
      · simp [hdirectory, hup]
      · by_cases hlong : name.utf8ByteSize ≤ nameLimit
        · by_cases hsome : (tree.find? (start ++ [name])).isSome = true
          · simp [hdirectory, hdot, hup, Nat.not_lt.2 hlong, hlong, hsome]
          · simp [hdirectory, hdot, hup, Nat.not_lt.2 hlong, hsome]
        · simp [hdirectory, hdot, hup, Nat.not_le.1 hlong, hlong]
  · simp [hdirectory]

theorem IsOpen.step_put {tree : FileTree} {place start next : List String} {name : String}
    (h : tree.IsOpen place) (content : List UInt8) (hstep : tree.step start name = .ok next) :
    (tree.put place content).step start name = .ok next := by
  have hsome : (tree.find? (start ++ [name])).isSome = true →
      ((tree.put place content).find? (start ++ [name])).isSome = true := by
    intro hold
    by_cases hplace : start ++ [name] = place
    · rw [hplace, h.find?_put]
      rfl
    · rwa [h.find?_put_of_ne content hplace]
  rw [step_eq_ok_iff] at hstep ⊢
  rw [h.hasDirectory_put]
  refine ⟨hstep.1, ?_⟩
  obtain ⟨-, hname⟩ := hstep
  split
  · rwa [if_pos ‹_›] at hname
  · rw [if_neg ‹_›] at hname
    split
    · rwa [if_pos ‹_›] at hname
    · rw [if_neg ‹_›] at hname
      exact ⟨hname.1, hsome hname.2.1, hname.2.2⟩

/-- A path that led somewhere leads there still. -/
theorem IsOpen.walk_put {tree : FileTree} {place start last : List String}
    {names : List String} (h : tree.IsOpen place) (content : List UInt8)
    (hwalk : tree.walk start names = .ok last) :
    (tree.put place content).walk start names = .ok last := by
  induction names generalizing start with
  | nil => exact hwalk
  | cons name names ih =>
      unfold walk at hwalk ⊢
      split at hwalk
      · rename_i next hstep
        rw [h.step_put content hstep]
        exact ih hwalk
      · contradiction

theorem walk_append {tree : FileTree} {start middle : List String} {names : List String}
    (hwalk : tree.walk start names = .ok middle) (more : List String) :
    tree.walk start (names ++ more) = tree.walk middle more := by
  induction names generalizing start with
  | nil =>
      obtain rfl := Except.ok.inj hwalk
      rfl
  | cons name names ih =>
      unfold walk at hwalk
      rw [List.cons_append, walk]
      cases hstep : tree.step start name with
      | error failure => simp [hstep] at hwalk
      | ok next =>
          rw [hstep] at hwalk
          exact ih hwalk

/-! ## Where a path creates a file -/

theorem names_of_last {names : List String} {last : String}
    (hlast : (names.rdropWhile (· == "")).getLast? = some last)
    (hlength : (names.rdropWhile (· == "")).length = names.length) :
    names.rdropWhile (· == "") = names ∧ names = names.dropLast ++ [last] ∧ last ≠ "" := by
  have hself : names.rdropWhile (· == "") = names :=
    (List.rdropWhile_prefix (· == "") names).eq_of_length hlength
  rw [hself] at hlast
  obtain ⟨above, rfl⟩ := List.getLast?_eq_some_iff.1 hlast
  refine ⟨hself, by rw [List.dropLast_concat], ?_⟩
  simpa using List.rdropWhile_eq_self_iff.1 hself (by simp)

/-- A file is created below a directory, under a plain name that no directory has. -/
theorem creationFault?_eq_none {tree : FileTree} {path last : String} {holder : List String}
    {bare : Bool} (h : tree.creationFault? path holder last bare = none) :
    bare = true ∧ last ≠ "." ∧ last ≠ ".." ∧ last.utf8ByteSize ≤ nameLimit ∧
      tree.IsOpen (holder ++ [last]) := by
  unfold creationFault? at h
  split_ifs at h with hholder hdots hlong hdirectory
  simp only [Bool.not_eq_true', not_or, Bool.not_eq_false, Bool.not_eq_true] at *
  refine ⟨hdots.1, hdots.2.1, hdots.2.2, Nat.not_lt.1 hlong, by simp, ?_, hdirectory⟩
  rwa [List.dropLast_concat]

/-- Creation walks to the place above the last name, and the last name is a plain one that
no directory has. -/
theorem creationPlace_eq_ok {tree : FileTree} {path : String} {place : List String}
    (h : tree.creationPlace path = .ok place) :
    pathFault? path = none ∧ ∃ above holder last, namesOf path = above ++ [last] ∧
      tree.walk (tree.origin path) above = .ok holder ∧ place = holder ++ [last] ∧
      last ≠ "" ∧ last ≠ "." ∧ last ≠ ".." ∧ last.utf8ByteSize ≤ nameLimit ∧
      tree.IsOpen place := by
  unfold creationPlace at h
  split at h
  · contradiction
  · rename_i hfault
    refine ⟨hfault, ?_⟩
    dsimp only at h
    split at h
    · contradiction
    · rename_i last hlast
      split at h
      · contradiction
      · rename_i holder hwalk
        split at h
        · contradiction
        · rename_i hcreation
          obtain rfl := Except.ok.inj h
          obtain ⟨hbare, hdot, hup, hshort, hopen⟩ := creationFault?_eq_none hcreation
          obtain ⟨hself, hnames, hempty⟩ := names_of_last hlast (beq_iff_eq.1 hbare)
          exact ⟨_, holder, last, hnames, hself ▸ hwalk, rfl, hempty, hdot, hup, hshort,
            hopen⟩

theorem isOpen_of_creationPlace {tree : FileTree} {path : String} {place : List String}
    (h : tree.creationPlace path = .ok place) : tree.IsOpen place := by
  obtain ⟨-, above, holder, last, -, -, -, -, -, -, -, hopen⟩ := creationPlace_eq_ok h
  exact hopen

/-- The path of a new file leads to it. -/
theorem resolve_put {tree : FileTree} {path : String} {place : List String}
    (h : tree.creationPlace path = .ok place) (content : List UInt8) :
    (tree.put place content).resolve path = .ok place := by
  obtain ⟨hfault, above, holder, last, hnames, hwalk, rfl, hempty, hdot, hup, hshort, hopen⟩ :=
    creationPlace_eq_ok h
  have hholder := hopen.holder
  rw [List.dropLast_concat] at hholder
  have hlast : (tree.put (holder ++ [last]) content).step holder last =
      .ok (holder ++ [last]) := by
    rw [step_eq_ok_iff, hopen.hasDirectory_put, hopen.find?_put]
    simp [hholder, hempty, hdot, hup, hshort]
  have hresolve : (tree.put (holder ++ [last]) content).resolve path =
      (tree.put (holder ++ [last]) content).walk (tree.origin path) (above ++ [last]) := by
    rw [resolve, hfault, hnames]
    rfl
  rw [hresolve, walk_append (hopen.walk_put content hwalk), walk, hlast]
  rfl

end RasterText.FileTree
