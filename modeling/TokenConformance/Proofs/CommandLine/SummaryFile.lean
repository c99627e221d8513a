import TokenConformance.CommandLine.Session
import TokenConformance.Proofs.Run.Accounting

/-!
# The summary file — what has been run when it is written

Only a session without filters writes the summary file (`run_of_summaryFile`).  Then the files of the
run are all test files below the test directory (`perm_of_isFullRun`), and all of their tests are taken
(`executes_of_isFullRun`).  With fail-fast those behind the first failing one are left out all the same,
so that all are counted only where none fails or fail-fast is not asked for (`untilFailure_eq_self`).
-/

namespace TokenConformance

open Text (ofString)
open Run

/-- A session has read its command line, found its tokenizer, and loaded all test files below its test
directory. -/
structure HasLoaded (registry : Registry) (tree : FileTree) (line : List Text)
    (arguments : Arguments) (tokenizer : Tokenizer) (directory : Path) (files : List LoadedFile) :
    Prop where
  parsed : Arguments.parse line = .ok arguments
  tokenizer_eq : arguments.tokenizer.map registry.load = some (.ok tokenizer)
  directory_eq : arguments.testDirectory = some directory
  found : ∃ found, Suite.testFiles tree directory = .ok found ∧
    (files.map LoadedFile.file).Perm found
  loaded : ∀ loaded ∈ files, Suite.loadFile tree loaded.file = .ok loaded

/-- The number of tests that were counted. -/
def Counts.total (counts : Counts) : Int := counts.passed + counts.failed + counts.skipped

/-- The number of tests in files. -/
def testCount (files : List LoadedFile) : Nat := (files.map fun loaded => loaded.tests.length).sum

/-! ### Full runs -/

section FullRun

variable {options : RunOptions} {tokenizer : Tokenizer} {tree : FileTree} {directory : Path}
  {files : List LoadedFile} {found : List TestFile} {p : Placed}

theorem isFullRun_iff : options.isFullRun = true ↔
    options.testSpecs = [] ∧ RunOptions.parts options.filterFiles = [] ∧
      RunOptions.parts options.excludeFiles = [] ∧ RunOptions.parts options.excludeInputs = [] ∧
      RunOptions.parts options.filterInputs = [] := by
  simp only [RunOptions.isFullRun, Bool.and_eq_true, List.isEmpty_iff, and_assoc]

theorem takes_of_isFullRun (h : options.isFullRun = true) : takes options p = true := by
  obtain ⟨hspecs, -, -, hexclude, hfilter⟩ := isFullRun_iff.1 h
  simp only [takes, RunOptions.takesTest, hspecs, hexclude, hfilter]
  rfl

theorem selectsFile_of_isFullRun (h : options.isFullRun = true) (name : Text) :
    options.SelectsFile name := by
  obtain ⟨-, hfilter, hexclude, -, -⟩ := isFullRun_iff.1 h
  refine ⟨?_, .inl hfilter⟩
  rw [hexclude]
  nofun

/-- A full run loads every test file. -/
theorem perm_of_isFullRun (h : options.isFullRun = true) (hloads : Loads options tree found files) :
    (files.map LoadedFile.file).Perm found := by
  have hperm := hloads.sorted.perm
  rwa [List.filter_eq_self.2 fun file _ => decide_eq_true (selectsFile_of_isFullRun h _)] at hperm

/-- A full run executes the tests of all files through the first failing one. -/
theorem executes_of_isFullRun (h : options.isFullRun = true)
    (hload : load options tree directory = .ok files)
    (hunbroken : (run options tokenizer tree directory).error? = none) :
    Executes options tokenizer (run options tokenizer tree directory)
      (untilFailure options tokenizer (files.flatMap LoadedFile.placed)) := by
  have hexecutes := executes_of_unbroken hload hunbroken
  rwa [List.filter_eq_self.2 fun p _ => takes_of_isFullRun h] at hexecutes

end FullRun

/-! ### Counting all tests -/

section Counting

variable {options : RunOptions} {tokenizer : Tokenizer} {outcome : RunOutcome} {ps : List Placed}

theorem length_eq_of_parted {α : Type} {P F S : α → Prop} [DecidablePred P] [DecidablePred F]
    [DecidablePred S] : ∀ {l : List α}, (∀ a ∈ l, (P a ↔ ¬ F a ∧ ¬ S a) ∧ ¬ (F a ∧ S a)) →
      l.countP P + l.countP F + l.countP S = l.length
  | [], _ => rfl
  | a :: l, h => by
    have ih := length_eq_of_parted fun b hb => h b (List.mem_cons_of_mem _ hb)
    obtain ⟨hpass, hapart⟩ := h a List.mem_cons_self
    by_cases hF : F a <;> by_cases hS : S a <;>
      simp [hpass, hF, hS] at hapart ⊢ <;> omega

theorem Run.Executes.total (h : Executes options tokenizer outcome ps) :
    outcome.progress.counts.total = ps.length := by
  have hlength := length_eq_of_parted h.parted
  rw [h.counts]
  dsimp only [Counts.total]
  omega

theorem length_flatMap_placed (files : List LoadedFile) :
    (files.flatMap LoadedFile.placed).length = testCount files := by
  rw [List.length_flatMap, testCount]
  congr 1
  refine List.map_congr_left fun loaded _ => ?_
  rw [LoadedFile.placed, Placed.row, List.length_map, List.length_zipIdx]

/-- Where no test failed or fail-fast is not asked for, all tests have been executed. -/
theorem untilFailure_eq_self
    (h : Executes options tokenizer outcome (untilFailure options tokenizer ps))
    (hfailed : options.failFast = false ∨ outcome.progress.counts.failed = 0) :
    untilFailure options tokenizer ps = ps := by
  obtain hfast | hfailed := hfailed
  · exact throughFirst_eq_self fun p _ => by rw [hfast, Bool.false_and]
  · refine throughFirst_eq_self_of_mem fun p hp => ?_
    have hcount := (congrArg Counts.failed h.counts).symm.trans hfailed
    have hnone := List.countP_eq_zero.1 (Int.natCast_eq_zero.1 hcount) p hp
    rw [eq_false_of_ne_true hnone, Bool.and_false]

end Counting

/-! ### Sessions -/

section Sessions

variable {program : Text} {registry : Registry} {tree : FileTree} {line : List Text} {code : Nat}
  {content : Text}

theorem isFullRun_of_summarize {options : RunOptions} {counts : Counts} {files : FileResults}
    {summary : Summary} (h : summarize options counts files = .ok summary)
    (hfile : summary.file = some content) : options.isFullRun = true := by
  have hsummary : ∃ detailed, summary.file = if options.isFullRun then some detailed else none := by
    obtain ⟨header, -, h⟩ := Except.bind_eq_ok_iff.1 h
    dsimp only at h
    split at h <;>
    · obtain ⟨detailed, -, h⟩ := Except.bind_eq_ok_iff.1 h
      split at h
      · cases h
      · cases h
        exact ⟨detailed, rfl⟩
  obtain ⟨detailed, hsummary⟩ := hsummary
  by_contra hfull
  rw [hsummary, if_neg hfull] at hfile
  cases hfile

theorem isFullRun_of_runAndSummarize {options : RunOptions} {tokenizer : Tokenizer}
    {directory : Path}
    (hstatus : (runAndSummarize options tokenizer tree directory).status = .ok code)
    (hfile : (runAndSummarize options tokenizer tree directory).summaryFile = some content) :
    (run options tokenizer tree directory).error? = none ∧ options.isFullRun = true ∧
      code = (run options tokenizer tree directory).progress.counts.exitStatus := by
  unfold runAndSummarize at hstatus hfile
  cases herror : (run options tokenizer tree directory).error? with
  | some e =>
    simp only [herror] at hstatus
    cases hstatus
  | none =>
    simp only [herror] at hstatus hfile
    split at hstatus
    · cases hstatus
    · rename_i summary hsummary
      rw [hsummary] at hfile
      cases hstatus
      exact ⟨rfl, isFullRun_of_summarize hsummary hfile, rfl⟩

/-- A session that writes the summary file and ends with a status has run tests without filters. -/
theorem run_of_summaryFile (hstatus : (runSession program registry tree line).status = .ok code)
    (hfile : (runSession program registry tree line).summaryFile = some content) :
    ∃ arguments tokenizer directory, Arguments.parse line = .ok arguments ∧
      arguments.tokenizer.map registry.load = some (.ok tokenizer) ∧
      arguments.testDirectory = some directory ∧ arguments.options.isFullRun = true ∧
      (run arguments.options tokenizer tree directory).error? = none ∧
      code = (run arguments.options tokenizer tree directory).progress.counts.exitStatus := by
  unfold runSession at hstatus hfile
  cases hparse : Arguments.parse line with
  | error stop =>
    rw [hparse] at hfile
    cases stop <;> cases hfile
  | ok arguments =>
    rw [hparse] at hstatus hfile
    dsimp only at hstatus hfile
    unfold Arguments.runSession at hstatus hfile
    split at hfile
    · cases hfile
    · cases hfile
    · cases hfile
    · rename_i tokenizer directory htokenizer hdirectory
      rw [htokenizer, hdirectory] at hstatus
      obtain ⟨hunbroken, hfull, hcode⟩ := isFullRun_of_runAndSummarize hstatus hfile
      exact ⟨arguments, tokenizer, directory, rfl, htokenizer, hdirectory, hfull, hunbroken, hcode⟩

/-- **What has been run when the summary file is written**: all test files below the test directory
have been loaded, their tests have been executed through the first that fails, with fail-fast, and all
of them have been counted if fail-fast was not asked for or no test failed. -/
theorem executes_of_summaryFile
    (hstatus : (runSession program registry tree line).status = .ok code)
    (hfile : (runSession program registry tree line).summaryFile = some content) :
    ∃ arguments tokenizer directory files,
      HasLoaded registry tree line arguments tokenizer directory files ∧
      let outcome := run arguments.options tokenizer tree directory
      Executes arguments.options tokenizer outcome
          (untilFailure arguments.options tokenizer (files.flatMap LoadedFile.placed)) ∧
        code = outcome.progress.counts.exitStatus ∧
        (arguments.options.failFast = false ∨ code = 0 →
          outcome.progress.counts.total = testCount files) := by
  obtain ⟨arguments, tokenizer, directory, hparse, htokenizer, hdirectory, hfull, hunbroken, hcode⟩ :=
    run_of_summaryFile hstatus hfile
  obtain ⟨files, hload⟩ := exists_load_of_unbroken hunbroken
  obtain ⟨found, hfound, hloads⟩ := loads_of_load hload
  have hexecutes := executes_of_isFullRun hfull hload hunbroken
  refine ⟨arguments, tokenizer, directory, files, ⟨hparse, htokenizer, hdirectory,
    ⟨found, hfound, perm_of_isFullRun hfull hloads⟩, hloads.loaded⟩, hexecutes, hcode, fun h => ?_⟩
  have hfailed : arguments.options.failFast = false ∨
      (run arguments.options tokenizer tree directory).progress.counts.failed = 0 := by
    refine h.imp_right fun hzero => ?_
    by_contra hfailed
    rw [hcode, Counts.exitStatus, if_neg hfailed] at hzero
    cases hzero
  rw [hexecutes.total, untilFailure_eq_self hexecutes hfailed, length_flatMap_placed]

/-! ### Sessions with fail-fast -/

def sampleRegistry : Registry := [(ofString "m", [(ofString "t", .tokenizer standIn)])]

def failFastLine : List Text :=
  [ofString "--tokenizer", ofString "m:t", ofString "--test-dir", ofString "suite", ofString "-x"]

/-- The only test passes. -/
def passingTree : FileTree :=
  ⟨[([ofString "suite", ofString "a.test"],
    ofString "\x7b\"tests\":[\x7b\"input\":\"<!--a-->\",\"output\":[[\"Comment\",\"a\"]]\x7d]\x7d")],
    [], []⟩

/-- Where no test fails, a session with fail-fast has counted all tests. -/
theorem executes_of_summaryFile_passing :
    ∃ code content, (runSession [] sampleRegistry passingTree failFastLine).status = .ok code ∧
      (runSession [] sampleRegistry passingTree failFastLine).summaryFile = some content ∧
      ∃ arguments tokenizer directory files,
        HasLoaded sampleRegistry passingTree failFastLine arguments tokenizer directory files ∧
        (run arguments.options tokenizer passingTree directory).progress.counts.total =
          testCount files := by
  obtain ⟨⟨code, hstatus, hzero⟩, hfile⟩ :
      (∃ code, (runSession [] sampleRegistry passingTree failFastLine).status = .ok code ∧
        code = 0) ∧
      (runSession [] sampleRegistry passingTree failFastLine).summaryFile.isSome = true := by
    decide +kernel
  obtain ⟨content, hcontent⟩ := Option.isSome_iff_exists.1 hfile
  obtain ⟨arguments, tokenizer, directory, files, hloaded, -, -, htotal⟩ :=
    executes_of_summaryFile hstatus hcontent
  exact ⟨code, content, hstatus, hcontent, arguments, tokenizer, directory, files, hloaded,
    htotal (.inr hzero)⟩

/-- With fail-fast the summary file is written although one of the two tests was not executed. -/
theorem summaryFile_of_failFast :
    ¬ ∀ (program : Text) (registry : Registry) (tree : FileTree) (line : List Text) (code : Nat)
      (content : Text) (arguments : Arguments) (tokenizer : Tokenizer) (directory : Path)
      (files : List LoadedFile),
      (runSession program registry tree line).status = .ok code →
        (runSession program registry tree line).summaryFile = some content →
        HasLoaded registry tree line arguments tokenizer directory files →
        (run arguments.options tokenizer tree directory).progress.counts.total = testCount files := by
  intro h
  let options := { RunOptions.default with failFast := true }
  have hparse : Arguments.parse failFastLine =
      .ok ⟨some (ofString "m:t"), some sampleDirectory, options⟩ := rfl
  have hfound : Suite.testFiles failingTree sampleDirectory =
      .ok [Suite.fileAt sampleDirectory [ofString "a.test"]] := rfl
  obtain ⟨loaded, hloaded, htests⟩ : ∃ loaded, Suite.loadFile failingTree
      (Suite.fileAt sampleDirectory [ofString "a.test"]) = .ok loaded ∧ loaded.tests.length = 2 := by
    decide +kernel
  have hfile := Suite.file_of_loadFile hloaded
  have hsession : HasLoaded sampleRegistry failingTree failFastLine
      ⟨some (ofString "m:t"), some sampleDirectory, options⟩ standIn sampleDirectory [loaded] := by
    refine ⟨hparse, rfl, rfl, ⟨_, hfound, ?_⟩, ?_⟩
    · rw [List.map_singleton, hfile]
    · rw [List.forall_mem_singleton, hfile]
      exact hloaded
  have hwritten : (∃ code, (runSession [] sampleRegistry failingTree failFastLine).status = .ok code ∧
        code = 1) ∧
      (runSession [] sampleRegistry failingTree failFastLine).summaryFile.isSome = true ∧
      (run options standIn failingTree sampleDirectory).progress.counts.total = 1 := by
    decide +kernel
  obtain ⟨⟨code, hstatus, -⟩, hcontent, hone⟩ := hwritten
  obtain ⟨content, hcontent⟩ := Option.isSome_iff_exists.1 hcontent
  have htotal := h [] sampleRegistry failingTree failFastLine code content _ standIn sampleDirectory
    [loaded] hstatus hcontent hsession
  rw [hone, testCount, List.map_singleton, htests] at htotal
  cases htotal

end Sessions

end TokenConformance
