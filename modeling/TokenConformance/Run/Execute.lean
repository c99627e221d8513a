import TokenConformance.Run.Report
import TokenConformance.Suite.Load
import TokenConformance.Tokenizer.Collect

/-!
# Running tests — file by file, test by test, state by state

The results of a test are recorded when it has been run in all of its states, the result of a file
when all of its tests have been run.  With `failFast` a run ends at the first failing test.  A
tokenizer that does not support a state makes the test skipped there; any other failure of a call
ends the run and leaves the results of the earlier tests.
-/

namespace TokenConformance

open Text (ofString)

/-- Why a run was broken off. -/
inductive RunError
  | load (e : LoadError)
  | order (e : NaturalError)
  | selection (e : Misuse)
  | call (e : CollectError)

/-- What a run has done so far; `output` is what it has printed. -/
structure Progress where
  counts : Counts
  results : List TestResult
  files : FileResults
  output : Text

/-- Nothing done yet. -/
def Progress.start : Progress := ⟨⟨0, 0, 0⟩, [], ∅, []⟩

/-- Why a run stops early. -/
inductive Stop
  | failFast
  | broken (e : RunError)

namespace Run

/-- Runs a test in one state. -/
def runState (options : RunOptions) (tokenizer : Tokenizer) (test : TestCase)
    (state : TokenizerState) : Except CollectError TestResult :=
  let collected := (tokenizer test.input state test.lastStartTag).collect
  let trace := if 2 ≤ options.verbosity then traceText collected.events else []
  let result (verdict : Verdict) (actual : List Token) (trace : Text) : TestResult :=
    ⟨verdict, test.description, test.input, state, test.expected, actual, trace⟩
  match collected.failure? with
  | some (.tokenizer .notImplemented) => .ok (result .skip [] [])
  | some e => .error e
  | none =>
    let verdict := if Token.sameList test.expected collected.tokens then .pass else .fail
    .ok (result verdict collected.tokens trace)

/-- Runs a test in all of its states. -/
def runTest (options : RunOptions) (tokenizer : Tokenizer) (test : TestCase) :
    Except CollectError (List TestResult) :=
  test.initialStates.mapM (runState options tokenizer test)

/-- A test by its file's name and its index. -/
def place (name : Text) (index : Nat) : Text := name ++ ofString ":" ++ Text.ofNat index

/-- What is printed of a test that broke the run. -/
def errorNotice (name : Text) (index : Nat) (test : TestCase) : Text :=
  Text.line (ofString "\nError in test " ++ place name index) ++
    Text.line (ofString "Input HTML:\n" ++ test.input.display ++ ofString "\n")

/-- What is printed of a test that failed. -/
def failureNotice (options : RunOptions) (name : Text) (index : Nat) (results : List TestResult) :
    Text :=
  if 1 ≤ options.verbosity && !options.quiet then
    (results.filter (·.verdict == .fail)).flatMap fun result =>
      Text.line (ofString "\nTest failed in " ++ place name index) ++
        result.report options.verbosity
  else []

/-- Runs the tests of a file from an index on. -/
def runTests (options : RunOptions) (tokenizer : Tokenizer) (name : Text) :
    (index : Nat) → List TestCase → FileResult → Progress → FileResult × Progress × Option Stop
  | _, [], file, progress => (file, progress, none)
  | index, test :: rest, file, progress =>
    match options.takesTest name index test with
    | .error e => (file, progress, some (.broken (.selection e)))
    | .ok false => runTests options tokenizer name (index + 1) rest file progress
    | .ok true =>
      match runTest options tokenizer test with
      | .error e =>
        let output := progress.output ++ errorNotice name index test
        (file, { progress with output }, some (.broken (.call e)))
      | .ok results =>
        let verdict := Verdict.ofStates (results.map TestResult.verdict)
        let file := file.add verdict index
        let progress := { progress with
          counts := progress.counts.add verdict
          results := progress.results ++ results
          output := progress.output ++ failureNotice options name index results }
        if progress.counts.failed ≠ 0 && options.failFast then (file, progress, some .failFast)
        else runTests options tokenizer name (index + 1) rest file progress

/-- Runs the tests of files one after another.  A file of which no test was taken has no result. -/
def runFiles (options : RunOptions) (tokenizer : Tokenizer) :
    List LoadedFile → Progress → Progress × Option Stop
  | [], progress => (progress, none)
  | loaded :: rest, progress =>
    match runTests options tokenizer loaded.file.path.fileName 0 loaded.tests .empty progress with
    | (_, progress, some stop) => (progress, some stop)
    | (result, progress, none) =>
      let files := if result.verdicts.isEmpty then progress.files
        else progress.files.insert loaded.file.relative.toText result
      runFiles options tokenizer rest { progress with files }

/-- Loads the test files that the options take, in natural order. -/
def load (options : RunOptions) (tree : FileTree) (directory : Path) :
    Except RunError (List LoadedFile) := do
  let files ← (Suite.testFiles tree directory).mapError .load
  let taken := files.filter fun file => options.takesFile file.path.fileName
  let sorted ← (Suite.sortFiles taken).mapError .order
  (sorted.mapM (Suite.loadFile tree)).mapError .load

end Run

/-- How a run ended: what it did, and the error if it was broken off. -/
structure RunOutcome where
  progress : Progress
  error? : Option RunError

/-- Runs the tests below a directory. -/
def run (options : RunOptions) (tokenizer : Tokenizer) (tree : FileTree) (directory : Path) :
    RunOutcome :=
  match Run.load options tree directory with
  | .error e => ⟨.start, some e⟩
  | .ok files =>
    match Run.runFiles options tokenizer files .start with
    | (progress, some (.broken e)) => ⟨progress, some e⟩
    | (progress, _) => ⟨progress, none⟩

end TokenConformance
