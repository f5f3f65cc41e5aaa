import RasterText.CommandLine.Run
import RasterText.Proofs.Files
import RasterText.Proofs.Rendering

/-!
# What a run leaves behind

Whatever decodes the images, a run passes through its checks in a fixed order, and
`outcome_run` says once what each of its five ends leaves behind.  From this follow the
exact conditions of success, the error of the first condition that fails, and what becomes
of the standard output and the files.  A run that fails after it opened its output leaves
an empty file there.
-/

namespace RasterText

theorem Text.count_newline_unlines {lines : List String}
    (h : ∀ line ∈ lines, '\n' ∉ line.toList) :
    (Text.unlines lines).toList.count '\n' = lines.length := by
  rw [Text.unlines, String.toList_ofList]
  induction lines with
  | nil => rfl
  | cons line lines ih =>
      have hline : line.toList.count '\n' = 0 :=
        List.count_eq_zero_of_not_mem (h line List.mem_cons_self)
      have hlines := ih fun other hother => h other (List.mem_cons_of_mem _ hother)
      simp only [List.flatMap_cons, List.count_append, List.count_singleton_self, hline, hlines,
        List.length_cons]
      omega

namespace Image

theorem count_newline_of_render {image : Image} {settings : Settings} {lines : List String}
    (hrender : image.render settings = .ok lines) :
    (Text.unlines lines).toList.count '\n' = image.height := by
  rw [Text.count_newline_unlines, length_of_render hrender]
  intro line hline
  obtain ⟨h, rfl⟩ := render_eq_ok_iff.1 hrender
  obtain ⟨y, rfl⟩ := List.mem_ofFn.1 hline
  rw [String.toList_ofList]
  exact newline_not_mem_lineOf settings _

theorem render_of_not_isFilled {image : Image} {settings : Settings}
    (haccepted : settings.fault? = none) (h : ¬ image.IsFilled) :
    image.render settings = .error (.emptyImage image.width image.height) := by
  simp [render, haccepted, h]

end Image

namespace CommandLine.Invocation

variable {openImage : Opener}

theorem deliver_of_error {invocation : Invocation} {image : Image} {error : Error}
    (hrender : image.render invocation.settings = .error error) (tree : FileTree)
    (destination : Destination) (before : List Event) :
    invocation.deliver tree image destination before =
      ⟨some (.conversion error), (destination.deliver tree []).1,
        (destination.deliver tree []).2, before⟩ := by
  simp [deliver, Image.write_of_error hrender]

/-- The write of a rendered image takes place in full, so its text is what is delivered. -/
theorem deliver_of_render {invocation : Invocation} {image : Image} {lines : List String}
    (hrender : image.render invocation.settings = .ok lines) (tree : FileTree)
    (destination : Destination) (before : List Event) :
    let content := Text.bytes (Text.unlines lines)
    invocation.deliver tree image destination before =
      ⟨none, (destination.deliver tree content).1, (destination.deliver tree content).2,
        before ++
          [.rendering image.width image.height
            (columnCount image.width invocation.settings.scale),
            .wroteLines image.height, .finished image.height invocation.output]⟩ := by
  intro content
  obtain ⟨hnone, haccepted, -⟩ := Image.write_of_isUnlimited Sink.isUnlimited_default hrender
  have hevents := Image.events_of_write hrender hnone
  rw [Image.length_of_render hrender] at hevents
  simp [deliver, hnone, haccepted, hevents, content]

/-- The ends that a run can come to, each with the report of it. -/
inductive Outcome (invocation : Invocation) (openImage : Opener) (tree : FileTree) :
    RunReport → Prop where
  | refused {fault : SettingsFault} (hfault : invocation.settings.fault? = some fault) :
      Outcome invocation openImage tree ⟨some (.invalidArguments fault), [], tree, []⟩
  | unloaded {error : Error} (haccepted : invocation.settings.fault? = none)
      (hload : tree.load openImage invocation.input = .error error) :
      Outcome invocation openImage tree ⟨some (.conversion error), [], tree,
        [.converting invocation.input invocation.settings]⟩
  | unopened {image : Image} {error : RunError}
      (haccepted : invocation.settings.fault? = none)
      (hload : tree.load openImage invocation.input = .ok image)
      (hopen : invocation.destination tree = .error error) :
      Outcome invocation openImage tree ⟨some error, [], tree,
        [.converting invocation.input invocation.settings,
          .loaded invocation.input image.width image.height]⟩
  | unrendered {image : Image} {destination : Destination} {error : Error}
      (haccepted : invocation.settings.fault? = none)
      (hload : tree.load openImage invocation.input = .ok image)
      (hopen : invocation.destination tree = .ok destination)
      (hrender : image.render invocation.settings = .error error) :
      Outcome invocation openImage tree ⟨some (.conversion error),
        (destination.deliver tree []).1, (destination.deliver tree []).2,
        [.converting invocation.input invocation.settings,
          .loaded invocation.input image.width image.height]⟩
  | written {image : Image} {destination : Destination} {lines : List String}
      (haccepted : invocation.settings.fault? = none)
      (hload : tree.load openImage invocation.input = .ok image)
      (hopen : invocation.destination tree = .ok destination)
      (hrender : image.render invocation.settings = .ok lines) :
      Outcome invocation openImage tree ⟨none,
        (destination.deliver tree (Text.bytes (Text.unlines lines))).1,
        (destination.deliver tree (Text.bytes (Text.unlines lines))).2,
        [.converting invocation.input invocation.settings,
          .loaded invocation.input image.width image.height,
          .rendering image.width image.height
            (columnCount image.width invocation.settings.scale),
          .wroteLines image.height, .finished image.height invocation.output]⟩

theorem Outcome.run_eq {invocation : Invocation} {tree : FileTree} {report : RunReport}
    (h : invocation.Outcome openImage tree report) :
    invocation.run openImage tree = report := by
  cases h with
  | refused hfault => simp [run, hfault]
  | unloaded haccepted hload => simp [run, haccepted, hload, FileTree.loadReporting]
  | unopened haccepted hload hopen =>
      simp [run, haccepted, hload, hopen, FileTree.loadReporting]
  | unrendered haccepted hload hopen hrender =>
      simp [run, haccepted, hload, hopen, deliver_of_error hrender, FileTree.loadReporting]
  | written haccepted hload hopen hrender =>
      simp [run, haccepted, hload, hopen, deliver_of_render hrender, FileTree.loadReporting]

/-- Every run comes to one of the ends. -/
theorem outcome_run (invocation : Invocation) (openImage : Opener) (tree : FileTree) :
    invocation.Outcome openImage tree (invocation.run openImage tree) := by
  have hend : ∃ report, invocation.Outcome openImage tree report := by
    cases hfault : invocation.settings.fault? with
    | some fault => exact ⟨_, .refused hfault⟩
    | none =>
        cases hload : tree.load openImage invocation.input with
        | error error => exact ⟨_, .unloaded hfault hload⟩
        | ok image =>
            cases hopen : invocation.destination tree with
            | error error => exact ⟨_, .unopened hfault hload hopen⟩
            | ok destination =>
                cases hrender : image.render invocation.settings with
                | error error => exact ⟨_, .unrendered hfault hload hopen hrender⟩
                | ok lines => exact ⟨_, .written hfault hload hopen hrender⟩
  obtain ⟨report, hreport⟩ := hend
  rwa [hreport.run_eq]

/-! ## The output -/

theorem destination_eq_ok_iff {invocation : Invocation} {tree : FileTree}
    {destination : Destination} :
    invocation.destination tree = .ok destination ↔
      invocation.output = none ∧ destination = .stdout ∨
        ∃ path place, invocation.output = some path ∧
          tree.creationPlace path = .ok place ∧ destination = .file place := by
  unfold Invocation.destination
  cases invocation.output with
  | none => simp [eq_comm]
  | some path => cases hplace : tree.creationPlace path <;> simp [hplace, eq_comm]

theorem destination_of_creation_error {invocation : Invocation} {tree : FileTree}
    {path : String} {failure : IoFailure} (hpath : invocation.output = some path)
    (h : tree.creationPlace path = .error failure) :
    invocation.destination tree = .error (.creating path failure) := by
  simp [Invocation.destination, hpath, h]

/-- The output can be opened: it is the standard output, or a file that can be created. -/
def OutputOpens (invocation : Invocation) (tree : FileTree) : Prop :=
  ∀ path, invocation.output = some path → ∃ place, tree.creationPlace path = .ok place

theorem exists_destination_iff {invocation : Invocation} {tree : FileTree} :
    (∃ destination, invocation.destination tree = .ok destination) ↔
      invocation.OutputOpens tree := by
  simp only [destination_eq_ok_iff, OutputOpens]
  cases invocation.output with
  | none => simp
  | some path => simp

/-- A place that is not the place of the output holds after a delivery what it held
before. -/
theorem find?_deliver_of_ne {invocation : Invocation} {tree : FileTree}
    {destination : Destination} {names : List String}
    (hopen : invocation.destination tree = .ok destination)
    (hother : ∀ path, invocation.output = some path → tree.creationPlace path ≠ .ok names)
    (content : List UInt8) :
    (destination.deliver tree content).2.find? names = tree.find? names := by
  rcases destination_eq_ok_iff.1 hopen with ⟨-, rfl⟩ | ⟨path, place, hpath, hplace, rfl⟩
  · rfl
  · have hne : names ≠ place := by
      rintro rfl
      exact hother path hpath hplace
    exact (FileTree.isOpen_of_creationPlace hplace).find?_put_of_ne content hne

/-- No run changes what stands anywhere but at the place of its output. -/
theorem find?_run_of_ne (invocation : Invocation) (openImage : Opener) (tree : FileTree)
    {names : List String}
    (hother : ∀ path, invocation.output = some path → tree.creationPlace path ≠ .ok names) :
    (invocation.run openImage tree).tree.find? names = tree.find? names := by
  have hend := outcome_run invocation openImage tree
  generalize invocation.run openImage tree = report at hend ⊢
  cases hend with
  | refused hfault => rfl
  | unloaded haccepted hload => rfl
  | unopened haccepted hload hopen => rfl
  | unrendered haccepted hload hopen hrender => exact find?_deliver_of_ne hopen hother []
  | written haccepted hload hopen hrender => exact find?_deliver_of_ne hopen hother _

/-! ## Success -/

structure Succeeds (invocation : Invocation) (openImage : Opener) (tree : FileTree)
    (image : Image) : Prop where
  accepted : invocation.settings.fault? = none
  loaded : tree.load openImage invocation.input = .ok image
  opened : invocation.OutputOpens tree
  filled : image.IsFilled
  columns : 0 < columnCount image.width invocation.settings.scale

theorem Succeeds.exists_render {invocation : Invocation} {tree : FileTree} {image : Image}
    (h : invocation.Succeeds openImage tree image) :
    ∃ lines, image.render invocation.settings = .ok lines :=
  ⟨_, Image.render_eq_ok_iff.2 ⟨⟨h.accepted, h.filled, Nat.ne_of_gt h.columns⟩, rfl⟩⟩

theorem run_succeeds_iff {invocation : Invocation} {tree : FileTree} :
    (invocation.run openImage tree).error? = none ↔
      ∃ image, invocation.Succeeds openImage tree image := by
  constructor
  · intro hnone
    have hend := outcome_run invocation openImage tree
    generalize invocation.run openImage tree = report at hend hnone
    cases hend with
    | refused hfault => contradiction
    | unloaded haccepted hload => contradiction
    | unopened haccepted hload hopen => contradiction
    | unrendered haccepted hload hopen hrender => contradiction
    | written haccepted hload hopen hrender =>
        obtain ⟨hrenders, -⟩ := Image.render_eq_ok_iff.1 hrender
        exact ⟨_, haccepted, hload, exists_destination_iff.1 ⟨_, hopen⟩, hrenders.filled,
          Nat.pos_of_ne_zero hrenders.columns⟩
  · rintro ⟨image, h⟩
    obtain ⟨destination, hopen⟩ := exists_destination_iff.2 h.opened
    obtain ⟨lines, hrender⟩ := h.exists_render
    rw [(Outcome.written h.accepted h.loaded hopen hrender).run_eq]

structure Delivers (invocation : Invocation) (tree : FileTree) (image : Image) (text : String)
    (report : RunReport) : Prop where
  toStdout : invocation.output = none →
    report.stdout = Text.bytes text ∧ report.tree = tree
  toFile : ∀ path, invocation.output = some path → report.stdout = [] ∧
    ∃ place, tree.creationPlace path = .ok place ∧ report.tree.resolve path = .ok place ∧
      report.tree.find? place = some (.file (Text.bytes text)) ∧
      ∀ other, other ≠ place → report.tree.find? other = tree.find? other
  events : report.events =
    [.converting invocation.input invocation.settings,
      .loaded invocation.input image.width image.height,
      .rendering image.width image.height (columnCount image.width invocation.settings.scale),
      .wroteLines image.height, .finished image.height invocation.output]

theorem Succeeds.delivers {invocation : Invocation} {tree : FileTree} {image : Image}
    {lines : List String} (h : invocation.Succeeds openImage tree image)
    (hrender : image.render invocation.settings = .ok lines) :
    invocation.Delivers tree image (Text.unlines lines) (invocation.run openImage tree) := by
  obtain ⟨destination, hopen⟩ := exists_destination_iff.2 h.opened
  rw [(Outcome.written h.accepted h.loaded hopen hrender).run_eq]
  rcases destination_eq_ok_iff.1 hopen with ⟨hnone, rfl⟩ | ⟨path, place, hpath, hplace, rfl⟩
  · exact ⟨fun _ => ⟨rfl, rfl⟩, fun path hpath => by simp [hnone] at hpath, rfl⟩
  · refine ⟨fun hnone => by simp [hpath] at hnone, ?_, rfl⟩
    intro other hother
    obtain rfl := Option.some.inj (hpath.symm.trans hother)
    have hopen := FileTree.isOpen_of_creationPlace hplace
    exact ⟨rfl, place, hplace, FileTree.resolve_put hplace _, hopen.find?_put _,
      fun names hnames => hopen.find?_put_of_ne _ hnames⟩

/-- A run succeeds exactly under its conditions, reports the first one that fails, writes
the lines of the image that it loaded to its output, and changes no other file. -/
theorem run_end_to_end (invocation : Invocation) (openImage : Opener) (tree : FileTree) :
    let report := invocation.run openImage tree
    (report.error? = none ↔ ∃ image, invocation.Succeeds openImage tree image) ∧
    (∀ fault, invocation.settings.fault? = some fault →
      report.error? = some (.invalidArguments fault)) ∧
    (invocation.settings.fault? = none →
      (∀ error, tree.load openImage invocation.input = .error error →
        report.error? = some (.conversion error)) ∧
      ∀ image, tree.load openImage invocation.input = .ok image →
        (∀ path failure, invocation.output = some path →
          tree.creationPlace path = .error failure →
          report.error? = some (.creating path failure)) ∧
        (invocation.OutputOpens tree →
          (¬ image.IsFilled →
            report.error? = some (.conversion (.emptyImage image.width image.height))) ∧
          (image.IsFilled → columnCount image.width invocation.settings.scale = 0 →
            report.error? = some (.conversion (image.noColumns invocation.settings))))) ∧
    (∀ image, invocation.Succeeds openImage tree image →
      ∃ lines, image.render invocation.settings = .ok lines ∧
        invocation.Delivers tree image (Text.unlines lines) report ∧
        (Text.unlines lines).toList.count '\n' = image.height) ∧
    ∀ names, (∀ path, invocation.output = some path → tree.creationPlace path ≠ .ok names) →
      report.tree.find? names = tree.find? names := by
  intro report
  refine ⟨run_succeeds_iff, ?_, ?_, ?_, fun names hother => find?_run_of_ne _ _ _ hother⟩
  · intro fault hfault
    simp only [report, (Outcome.refused hfault).run_eq]
  · intro haccepted
    refine ⟨?_, ?_⟩
    · intro error hload
      simp only [report, (Outcome.unloaded haccepted hload).run_eq]
    · intro image hload
      refine ⟨?_, ?_⟩
      · intro path failure hpath hfailure
        have hopen := destination_of_creation_error hpath hfailure
        simp only [report, (Outcome.unopened haccepted hload hopen).run_eq]
      · intro hopens
        obtain ⟨destination, hopen⟩ := exists_destination_iff.2 hopens
        refine ⟨?_, ?_⟩
        · intro hempty
          have hrender := Image.render_of_not_isFilled haccepted hempty
          simp only [report, (Outcome.unrendered haccepted hload hopen hrender).run_eq]
        · intro hfilled hcolumns
          have hrender := Image.render_of_no_columns haccepted hfilled hcolumns
          simp only [report, (Outcome.unrendered haccepted hload hopen hrender).run_eq]
  · intro image hsucceeds
    obtain ⟨lines, hrender⟩ := hsucceeds.exists_render
    exact ⟨lines, hrender, hsucceeds.delivers hrender, Image.count_newline_of_render hrender⟩

def redRow : Image :=
  ⟨4, 1, #[⟨255, 0, 0, 255⟩, ⟨255, 0, 0, 255⟩, ⟨255, 0, 0, 255⟩, ⟨255, 0, 0, 255⟩], rfl,
    Nat.le_of_ble_eq_true rfl, Nat.le_of_ble_eq_true rfl⟩

/-- A `png` file of `redRow`. -/
def redFile : List UInt8 :=
  [0x89, 0x50, 0x4e, 0x47, 0x0d, 0x0a, 0x1a, 0x0a, 0x00, 0x00, 0x00, 0x0d, 0x49, 0x48,
    0x44, 0x52, 0x00, 0x00, 0x00, 0x04, 0x00, 0x00, 0x00, 0x01, 0x08, 0x02, 0x00, 0x00,
    0x00, 0x76, 0x5e, 0x98, 0x9a, 0x00, 0x00, 0x00, 0x0d, 0x49, 0x44, 0x41, 0x54, 0x78,
    0xda, 0x63, 0xf8, 0xcf, 0xc0, 0x00, 0x47, 0x00, 0x1d, 0xef, 0x03, 0xfd, 0x39, 0x4f,
    0x74, 0x0d, 0x00, 0x00, 0x00, 0x00, 0x49, 0x45, 0x4e, 0x44, 0xae, 0x42, 0x60, 0x82]

/-- What decoders make of the paths of `sampleTree`: only one of its files holds an image. -/
def openRed : Opener := fun tree path =>
  match tree.resolve path with
  | .error failure => .error (.io failure)
  | .ok place =>
    if tree.find? place = some (.file redFile) then .ok redRow else .error .unsupported

def sampleTree : FileTree :=
  .ofPaths [("red.png", .file redFile), ("kept.txt", .file (Text.bytes "kept"))]

def replacing : Invocation :=
  { input := "red.png", output := some "./red.png", layout := .rgb }

theorem run_end_to_end_replacing :
    replacing.Succeeds openRed sampleTree redRow ∧
      (replacing.run openRed sampleTree).error? = none ∧
      (replacing.run openRed sampleTree).tree.find? ["work", "red.png"] =
        some (.file (Text.bytes "\\x1cff0000      \\x19\n")) ∧
      (replacing.run openRed sampleTree).tree.find? ["work", "kept.txt"] =
        some (.file (Text.bytes "kept")) := by
  have hplace : sampleTree.creationPlace "./red.png" = .ok ["work", "red.png"] := by
    decide +kernel
  have hlines : redRow.render replacing.settings = .ok ["\\x1cff0000      \\x19"] := by
    decide +kernel
  have hsucceeds : replacing.Succeeds openRed sampleTree redRow := by
    refine ⟨by decide +kernel, rfl, ?_, by decide +kernel, by decide +kernel⟩
    intro path hpath
    obtain rfl := Option.some.inj hpath
    exact ⟨_, hplace⟩
  obtain ⟨hsuccess, -, -, hdelivers, hframe⟩ := run_end_to_end replacing openRed sampleTree
  obtain ⟨lines, hrender, hdelivers, -⟩ := hdelivers _ hsucceeds
  obtain rfl := Except.ok.inj (hlines.symm.trans hrender)
  obtain ⟨-, place, hcreated, -, hcontent, -⟩ := hdelivers.toFile _ rfl
  obtain rfl := Except.ok.inj (hplace.symm.trans hcreated)
  refine ⟨hsucceeds, hsuccess.2 ⟨_, hsucceeds⟩, hcontent, hframe _ ?_⟩
  intro path hpath
  obtain rfl := Option.some.inj hpath
  rw [hplace]
  decide

/-! ## Failure -/

def Opens (invocation : Invocation) (openImage : Opener) (tree : FileTree)
    (place : List String) : Prop :=
  invocation.settings.fault? = none ∧
    (∃ image, tree.load openImage invocation.input = .ok image) ∧
    ∃ path, invocation.output = some path ∧ tree.creationPlace path = .ok place

theorem Opens.unique {invocation : Invocation} {tree : FileTree} {place other : List String}
    (h : invocation.Opens openImage tree place) (hother : invocation.Opens openImage tree other) :
    other = place := by
  obtain ⟨-, -, path, hpath, hplace⟩ := h
  obtain ⟨-, -, path', hpath', hplace'⟩ := hother
  obtain rfl := Option.some.inj (hpath.symm.trans hpath')
  exact Except.ok.inj (hplace'.symm.trans hplace)

/-- A failed run prints nothing.  Either it opened no file and left the tree alone, or it
emptied the file that it opened. -/
theorem tree_of_failed_run {invocation : Invocation} {tree : FileTree} {error : RunError}
    (hfailed : (invocation.run openImage tree).error? = some error) :
    (invocation.run openImage tree).stdout = [] ∧
      ((invocation.run openImage tree).tree = tree ∧
          (∀ place, ¬ invocation.Opens openImage tree place) ∨
        ∃ place, invocation.Opens openImage tree place ∧
          (invocation.run openImage tree).tree = tree.put place []) := by
  have hend := outcome_run invocation openImage tree
  generalize invocation.run openImage tree = report at hend hfailed
  cases hend with
  | refused hfault =>
      refine ⟨rfl, .inl ⟨rfl, ?_⟩⟩
      rintro place ⟨haccepted, -⟩
      simp [hfault] at haccepted
  | unloaded haccepted hload =>
      refine ⟨rfl, .inl ⟨rfl, ?_⟩⟩
      rintro place ⟨-, ⟨image, hloaded⟩, -⟩
      simp [hload] at hloaded
  | unopened haccepted hload hopen =>
      refine ⟨rfl, .inl ⟨rfl, ?_⟩⟩
      rintro place ⟨-, -, path, hpath, hplace⟩
      simp [Invocation.destination, hpath, hplace] at hopen
  | unrendered haccepted hload hopen hrender =>
      rcases destination_eq_ok_iff.1 hopen with ⟨hnone, rfl⟩ | ⟨path, place, hpath, hplace, rfl⟩
      · refine ⟨rfl, .inl ⟨rfl, ?_⟩⟩
        rintro place ⟨-, -, path, hpath, -⟩
        simp [hnone] at hpath
      · exact ⟨rfl, .inr ⟨place, ⟨haccepted, ⟨_, hload⟩, path, hpath, hplace⟩, rfl⟩⟩
  | written haccepted hload hopen hrender => contradiction

/-- A failed run prints nothing, and it keeps the files as they were exactly if it opened
no output file or that file was empty before; an output file that it opened is empty
afterwards. -/
theorem failed_run_keeps_files_iff {invocation : Invocation} {tree : FileTree}
    {error : RunError} (hfailed : (invocation.run openImage tree).error? = some error) :
    (invocation.run openImage tree).stdout = [] ∧
    ((∀ names, (invocation.run openImage tree).tree.find? names = tree.find? names) ↔
      ∀ place, invocation.Opens openImage tree place → tree.find? place = some (.file [])) ∧
    ∀ place, invocation.Opens openImage tree place →
      (invocation.run openImage tree).tree.find? place = some (.file []) := by
  obtain ⟨hstdout, ⟨htree, hclosed⟩ | ⟨place, hopens, htree⟩⟩ := tree_of_failed_run hfailed
  · rw [htree]
    refine ⟨hstdout, ?_, ?_⟩
    · exact ⟨fun _ place hopens => absurd hopens (hclosed place), fun _ names => rfl⟩
    · exact fun place hopens => absurd hopens (hclosed place)
  · have hopen : tree.IsOpen place := by
      obtain ⟨-, -, path, -, hplace⟩ := hopens
      exact FileTree.isOpen_of_creationPlace hplace
    rw [htree]
    refine ⟨hstdout, ⟨?_, ?_⟩, ?_⟩
    · intro hsame other hother
      obtain rfl := hopens.unique hother
      rw [← hsame other, hopen.find?_put]
    · intro hempty names
      by_cases hnames : names = place
      · rw [hnames, hopen.find?_put, hempty place hopens]
      · exact hopen.find?_put_of_ne [] hnames
    · intro other hother
      obtain rfl := hopens.unique hother
      exact hopen.find?_put []

def tooNarrow : Invocation :=
  { input := "red.png", output := some "kept.txt", scale := minScale }

theorem failed_run_keeps_files_iff_tooNarrow :
    (tooNarrow.run openRed sampleTree).error? =
        some (.conversion (.invalidSettings (.noColumns minScale 4))) ∧
      (tooNarrow.run openRed sampleTree).stdout = [] ∧
      (tooNarrow.run openRed sampleTree).tree.find? ["work", "kept.txt"] = some (.file []) := by
  have hfailed : (tooNarrow.run openRed sampleTree).error? =
      some (.conversion (.invalidSettings (.noColumns minScale 4))) := by
    decide +kernel
  have hopens : tooNarrow.Opens openRed sampleTree ["work", "kept.txt"] :=
    ⟨by decide +kernel, ⟨_, rfl⟩, "kept.txt", rfl, rfl⟩
  obtain ⟨hstdout, -, hempty⟩ := failed_run_keeps_files_iff hfailed
  exact ⟨hfailed, hstdout, hempty _ hopens⟩

theorem not_forall_failed_run_keeps_files :
    ¬ ∀ (invocation : Invocation) (openImage : Opener) (tree : FileTree),
      (invocation.run openImage tree).error? ≠ none →
      (invocation.run openImage tree).stdout = [] ∧
        ∀ names, (invocation.run openImage tree).tree.find? names = tree.find? names := by
  intro hkeeps
  have hsame := (hkeeps tooNarrow openRed sampleTree (by decide +kernel)).2 ["work", "kept.txt"]
  have hbefore : sampleTree.find? ["work", "kept.txt"] = some (.file (Text.bytes "kept")) := rfl
  have hafter : (tooNarrow.run openRed sampleTree).tree.find? ["work", "kept.txt"] =
      some (.file []) := rfl
  rw [hbefore, hafter] at hsame
  revert hsame
  decide +kernel

end CommandLine.Invocation

end RasterText
