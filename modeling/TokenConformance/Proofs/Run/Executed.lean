import TokenConformance.Proofs.Run.Loading
import TokenConformance.Proofs.Run.Progress
import TokenConformance.Tokenizer.Scripted

/-!
# Executed tests — a run does what it was asked for, and counts it

A run that was not broken off has executed the tests that it took, file by file and by their indices,
and with fail-fast none behind the first that fails (`executes_of_unbroken`).  Where the selected files
can be loaded and their selected tests are answered (`Runnable`), nothing breaks the run off, and the
tests that it takes are exactly the selected ones (`Runnable.turn_eq_ok`).
-/

namespace TokenConformance.Run

open Text (ofString)

/-! ### Tests that are due -/

/-- The options select a test, the input of which is a text. -/
def Selects (options : RunOptions) (p : Placed) : Prop :=
  ∃ input, p.test.input = .str input ∧ options.SelectsTest p.name p.index input

section Selects

variable {options : RunOptions} {p : Placed}

theorem selects_iff {input : Text} (h : p.test.input = .str input) :
    Selects options p ↔ options.SelectsTest p.name p.index input := by
  constructor
  · rintro ⟨t, ht, hselects⟩
    cases h.symm.trans ht
    exact hselects
  · exact fun hselects => ⟨input, h, hselects⟩

instance : Decidable (Selects options p) :=
  match h : p.test.input with
  | .str _ => decidable_of_iff' _ (selects_iff h)
  | .null | .bool _ | .int _ | .float _ | .arr _ | .obj _ =>
    isFalse fun ⟨_, ht, _⟩ => by rw [h] at ht; cases ht

end Selects

section Defs

variable (options : RunOptions) (tokenizer : Tokenizer)

/-- The selected files can be read and put in order, the inputs of their tests are texts, and the
selected tests are answered. -/
structure Runnable (tree : FileTree) (found : List TestFile) : Prop where
  readable : ∀ file ∈ found, options.SelectsFile file.path.fileName →
    ∃ loaded, Suite.loadFile tree file = .ok loaded ∧ ∀ p ∈ loaded.placed,
      (∃ input, p.test.input = .str input) ∧ (Selects options p → Answers tokenizer p.test)
  comparable : ∀ file ∈ found, options.SelectsFile file.path.fileName →
    ∀ file' ∈ found, options.SelectsFile file'.path.fileName →
      Natural.Comparable file.path.toText file'.path.toText

/-- Tests in a row, and with fail-fast none behind the first that fails. -/
def untilFailure (ps : List Placed) : List Placed :=
  throughFirst (fun p => options.failFast && decide (Fails tokenizer p.test)) ps

/-- The selected tests of files, file by file and by their indices, and with fail-fast none behind the
first that fails. -/
def due (files : List LoadedFile) : List Placed :=
  untilFailure options tokenizer
    ((files.flatMap LoadedFile.placed).filter fun p => Selects options p)

/-- A run has executed tests: it was not broken off, its results are those of each test in each of its
states, of which there is at least one, and its counts part the tests into those that pass, fail and
are skipped. -/
structure Executes (outcome : RunOutcome) (executed : List Placed) : Prop where
  unbroken : outcome.error? = none
  results : outcome.progress.results = executed.flatMap fun p =>
    p.test.initialStates.map (stateResult options tokenizer p.test)
  states : ∀ p ∈ executed, p.test.initialStates ≠ []
  counts : outcome.progress.counts =
    ⟨executed.countP fun p => Passes tokenizer p.test,
      executed.countP fun p => Fails tokenizer p.test,
      executed.countP fun p => Skips tokenizer p.test⟩
  parted : ∀ p ∈ executed,
    (Passes tokenizer p.test ↔ ¬ Fails tokenizer p.test ∧ ¬ Skips tokenizer p.test) ∧
      ¬ (Fails tokenizer p.test ∧ Skips tokenizer p.test)

end Defs

variable {options : RunOptions} {tokenizer : Tokenizer} {p : Placed}

/-! ### Deciding -/

instance {v : Json} : Decidable (∃ input, v = .str input) :=
  match v with
  | .str t => isTrue ⟨t, rfl⟩
  | .null | .bool _ | .int _ | .float _ | .arr _ | .obj _ => isFalse nofun

theorem runnable_iff {tree : FileTree} {found : List TestFile} :
    Runnable options tokenizer tree found ↔
      (∀ file ∈ found, options.SelectsFile file.path.fileName →
        ∃ loaded, Suite.loadFile tree file = .ok loaded ∧ ∀ p ∈ loaded.placed,
          (∃ input, p.test.input = .str input) ∧
            (Selects options p → Answers tokenizer p.test)) ∧
      ∀ file ∈ found, options.SelectsFile file.path.fileName →
        ∀ file' ∈ found, options.SelectsFile file'.path.fileName →
          Natural.Comparable file.path.toText file'.path.toText :=
  ⟨fun h => ⟨h.readable, h.comparable⟩, fun h => ⟨h.1, h.2⟩⟩

instance {tree : FileTree} {found : List TestFile} :
    Decidable (Runnable options tokenizer tree found) := decidable_of_iff' _ runnable_iff

section Executes

variable {tree : FileTree} {directory : Path} {found : List TestFile} {files : List LoadedFile}
  {ps : List Placed}

/-! ### Runs that are not broken off -/

theorem mem_placed {loaded : LoadedFile} (h : p ∈ loaded.placed) : p.test ∈ loaded.tests := by
  obtain ⟨⟨test, index⟩, hmem, rfl⟩ := List.mem_map.1 h
  exact List.fst_mem_of_mem_zipIdx hmem

theorem Loads.exists_loadFile (hloads : Loads options tree found files)
    (hp : p ∈ files.flatMap LoadedFile.placed) :
    ∃ loaded, loaded.file ∈ found ∧ options.SelectsFile loaded.file.path.fileName ∧
      Suite.loadFile tree loaded.file = .ok loaded ∧ p ∈ loaded.placed := by
  obtain ⟨loaded, hmem, hp⟩ := List.mem_flatMap.1 hp
  have hfile := hloads.sorted.perm.subset (List.mem_map_of_mem hmem)
  rw [List.mem_filter, decide_eq_true_iff] at hfile
  exact ⟨loaded, hfile.1, hfile.2, hloads.loaded loaded hmem, hp⟩

theorem cuts_eq : cuts options tokenizer =
    fun p => options.failFast && decide (Fails tokenizer p.test) := by
  funext p
  rw [Bool.eq_iff_iff, cuts_iff, Bool.and_eq_true, decide_eq_true_iff, verdict_eq_fail_iff]

theorem count_verdict {v : Verdict} {P : TestCase → Prop} [DecidablePred P]
    (h : ∀ p ∈ ps, verdict tokenizer p.test = v ↔ P p.test) :
    (ps.map fun p => verdict tokenizer p.test).count v = ps.countP fun p => P p.test := by
  rw [List.count, List.countP_map]
  refine List.countP_congr fun p hp => ?_
  rw [Function.comp_apply, beq_iff_eq, decide_eq_true_iff, h p hp]

theorem exactly_one {test : TestCase} (h : Answers tokenizer test) :
    (Passes tokenizer test ↔ ¬ Fails tokenizer test ∧ ¬ Skips tokenizer test) ∧
      ¬ (Fails tokenizer test ∧ Skips tokenizer test) := by
  rw [← verdict_eq_pass_iff h, ← verdict_eq_fail_iff, ← verdict_eq_skip_iff h]
  cases verdict tokenizer test <;> decide

theorem exists_load_of_unbroken (h : (run options tokenizer tree directory).error? = none) :
    ∃ files, load options tree directory = .ok files := by
  cases hload : load options tree directory with
  | ok files => exact ⟨files, rfl⟩
  | error e =>
    rw [run, hload] at h
    cases h

/-- **A run that was not broken off has executed the tests taken through the first failing one.** -/
theorem executes_of_unbroken (hload : load options tree directory = .ok files)
    (h : (run options tokenizer tree directory).error? = none) :
    Executes options tokenizer (run options tokenizer tree directory)
      (untilFailure options tokenizer
        ((files.flatMap LoadedFile.placed).filter (takes options))) := by
  obtain ⟨found, -, hloads⟩ := loads_of_load hload
  obtain ⟨hadvances, -, herror⟩ := run_spec tokenizer hload
  rw [untilFailure, ← cuts_eq, ← trail_fst_of_unbroken (herror.1 h)]
  have hturn : ∀ p ∈ (trail options tokenizer (files.flatMap LoadedFile.placed)).1,
      p ∈ files.flatMap LoadedFile.placed ∧ Answers tokenizer p.test := fun p hp =>
    (turn_of_mem_trail hp).imp_right fun hturn => (turn_eq_ok_true_iff.1 hturn).2
  refine ⟨h, hadvances.results, fun p hp => ?_, ?_, fun p hp => exactly_one (hturn p hp).2⟩
  · obtain ⟨loaded, -, -, hloaded, hplaced⟩ := hloads.exists_loadFile (hturn p hp).1
    exact Suite.initialStates_ne_nil hloaded (mem_placed hplaced)
  · rw [hadvances.counts, ← count_verdict fun p hp => verdict_eq_pass_iff (hturn p hp).2,
      ← count_verdict fun p _ => verdict_eq_fail_iff,
      ← count_verdict fun p hp => verdict_eq_skip_iff (hturn p hp).2]
    simp [Counts.plus, Counts.of, Progress.start]

/-! ### Runnable tests -/

theorem turn_eq_ok (hinput : ∃ input, p.test.input = .str input)
    (hanswers : Selects options p → Answers tokenizer p.test) :
    turn options tokenizer p = .ok (decide (Selects options p)) := by
  obtain ⟨input, hinput⟩ := hinput
  have htakes := RunOptions.takesTest_str options p.name p.index hinput
  by_cases hselects : Selects options p
  · have hselected := (selects_iff hinput).1 hselects
    rw [decide_eq_true hselected] at htakes
    rw [turn_eq_ok_true_iff.2 ⟨htakes, hanswers hselects⟩, decide_eq_true hselects]
  · have hleft := (selects_iff hinput).not.1 hselects
    rw [decide_eq_false hleft] at htakes
    rw [decide_eq_false hselects, turn, htakes]

theorem Runnable.turn_eq_ok (h : Runnable options tokenizer tree found)
    (hloads : Loads options tree found files) (hp : p ∈ files.flatMap LoadedFile.placed) :
    turn options tokenizer p = .ok (decide (Selects options p)) := by
  obtain ⟨loaded, hfound, hselects, hloaded, hp⟩ := hloads.exists_loadFile hp
  obtain ⟨loaded', hloaded', hplaced⟩ := h.readable loaded.file hfound hselects
  cases hloaded.symm.trans hloaded'
  exact Run.turn_eq_ok (hplaced p hp).1 (hplaced p hp).2

/-- **A run executes exactly the tests that are due.** -/
theorem run_executes_due (hfound : Suite.testFiles tree directory = .ok found)
    (h : Runnable options tokenizer tree found) :
    ∃ files, Loads options tree found files ∧
      Executes options tokenizer (run options tokenizer tree directory)
        (due options tokenizer files) := by
  obtain ⟨files, hload, hloads⟩ := exists_load hfound
    (fun file hfile hselects => (h.readable file hfile hselects).imp fun _ hread => hread.1)
    h.comparable
  have hturn := fun p (hp : p ∈ files.flatMap LoadedFile.placed) => h.turn_eq_ok hloads hp
  have hunbroken : (run options tokenizer tree directory).error? = none := by
    obtain ⟨-, -, herror⟩ := run_spec tokenizer hload
    refine herror.2 fun e hbroken => ?_
    obtain ⟨p, hp, herror⟩ := exists_turn_of_trail_eq_broken hbroken
    rw [hturn p hp] at herror
    cases herror
  refine ⟨files, hloads, ?_⟩
  rw [due, ← List.filter_congr fun p hp => takes_eq (hturn p hp)]
  exact executes_of_unbroken hload hunbroken

end Executes

/-! ### A suite of two files -/

/-- Of four tests the first passes, the second is for a state that is not supported, and the others
expect no tokens where there is a comment. -/
def sampleContent : Text :=
  ofString "\x7b\"tests\":[\x7b\"input\":\"<!--a-->\",\"output\":[[\"Comment\",\"a\"]]\x7d," ++
  ofString "\x7b\"input\":\"b\",\"output\":[],\"initialStates\":[\"CDATA section state\"]\x7d," ++
  ofString "\x7b\"input\":\"<!--c-->\",\"output\":[]\x7d,\x7b\"input\":\"<!--d-->\",\"output\":[]\x7d]\x7d"

/-- The second file cannot be read. -/
def sampleTree : FileTree :=
  ⟨[([ofString "suite", ofString "a.test"], sampleContent),
    ([ofString "suite", ofString "b.test"], ofString "?")], [], []⟩

def sampleDirectory : Path := .ofText (ofString "suite")

def sampleFound : List TestFile :=
  [Suite.fileAt sampleDirectory [ofString "a.test"], Suite.fileAt sampleDirectory [ofString "b.test"]]

def sampleOptions : RunOptions :=
  { RunOptions.default with failFast := true, excludeFiles := some [ofString "b."] }

/-- The file that cannot be read is left out, and the test behind the failing one is not executed. -/
theorem run_executes_due_sample :
    Suite.testFiles sampleTree sampleDirectory = .ok sampleFound ∧
      Runnable sampleOptions standIn sampleTree sampleFound ∧
      (∃ files, Loads sampleOptions sampleTree sampleFound files ∧
        Executes sampleOptions standIn (run sampleOptions standIn sampleTree sampleDirectory)
          (due sampleOptions standIn files)) ∧
      (run sampleOptions standIn sampleTree sampleDirectory).progress.counts = ⟨1, 1, 1⟩ := by
  have hfound : Suite.testFiles sampleTree sampleDirectory = .ok sampleFound := rfl
  have hrunnable : Runnable sampleOptions standIn sampleTree sampleFound := by decide +kernel
  exact ⟨hfound, hrunnable, run_executes_due hfound hrunnable, by decide +kernel⟩

end TokenConformance.Run
