import TokenConformance.OrderedMap
import TokenConformance.Suite.Path
import TokenConformance.Suite.TestCase

/-!
# Results — what a run found

A test is run once for each of its states.  It fails if it fails in one of them, is skipped if it
is skipped in all of them, and passes otherwise.  Results are counted over the run and file by
file.  A run only counts upwards from zero, but a summary can be asked for of any integers.
-/

namespace TokenConformance

/-- How a test came out. -/
inductive Verdict
  | pass
  | fail
  | skip
  deriving DecidableEq, Repr

namespace Verdict

/-- The word for a verdict. -/
def word : Verdict → String
  | pass => "pass"
  | fail => "fail"
  | skip => "skip"

/-- The verdict with the given word. -/
def ofWord? (word : Text) : Option Verdict :=
  [pass, fail, skip].find? fun verdict => decide (Text.ofString verdict.word = word)

/-- The sign of a verdict in the summary. -/
def symbol : Verdict → CodePoint
  | pass => '.'
  | fail => 'x'
  | skip => 's'

/-- The verdict on a test from the verdicts in its states. -/
def ofStates (verdicts : List Verdict) : Verdict :=
  if verdicts.any (· == fail) then fail
  else if verdicts.all (· == skip) then skip
  else pass

end Verdict

/-- How a test came out in one state.  A skipped test has no actual tokens. -/
structure TestResult where
  verdict : Verdict
  description : Json
  input : Json
  state : TokenizerState
  expected : List Token
  actual : List Token
  trace : Text

/-- How many tests passed, failed and were skipped. -/
structure Counts where
  passed : Int
  failed : Int
  skipped : Int
  deriving DecidableEq, Repr

/-- One more test with the given verdict. -/
def Counts.add (counts : Counts) : Verdict → Counts
  | .pass => { counts with passed := counts.passed + 1 }
  | .fail => { counts with failed := counts.failed + 1 }
  | .skip => { counts with skipped := counts.skipped + 1 }

/-- The tests of a file: their counts, and verdict and index of each. -/
structure FileResult where
  counts : Counts
  verdicts : List (Verdict × Int)
  deriving DecidableEq, Repr

namespace FileResult

/-- No tests yet. -/
def empty : FileResult := ⟨⟨0, 0, 0⟩, []⟩

/-- One more test. -/
def add (result : FileResult) (verdict : Verdict) (index : Int) : FileResult :=
  ⟨result.counts.add verdict, result.verdicts ++ [(verdict, index)]⟩

/-- The number of tests that were run. -/
def total (result : FileResult) : Int :=
  result.counts.passed + result.counts.failed + result.counts.skipped

end FileResult

/-- The results of files by their names. -/
abbrev FileResults := OrderedMap Text FileResult

end TokenConformance
