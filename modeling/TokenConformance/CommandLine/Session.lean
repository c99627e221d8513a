import TokenConformance.CommandLine.Arguments
import TokenConformance.CommandLine.Help
import TokenConformance.Run.Execute
import TokenConformance.Tokenizer.Registry

/-!
# Sessions — a run from the command line to the exit status

The tokenizer is looked up before any file is read.  A run that is not broken off is summarized,
and its exit status says whether a test failed.  A command line that sets the tokenizer or the test
directory to no argument is read without complaint, and the session is broken off where the argument
is needed.
-/

namespace TokenConformance

/-- Why a session was broken off. -/
inductive SessionError
  /-- The tokenizer was set to no name. -/
  | noTokenizer
  | registry (e : RegistryError)
  /-- The test directory was set to no path. -/
  | noDirectory
  | run (e : RunError)
  | summary (e : SummaryError)

/-- How a session ended: exit status or error, what it printed, and the summary file if it wrote
one. -/
structure SessionOutcome where
  status : Except SessionError Nat
  output : Text
  summaryFile : Option Text

/-- The exit status that counts lead to. -/
def Counts.exitStatus (counts : Counts) : Nat := if counts.failed = 0 then 0 else 1

/-- Runs the tests below a directory and summarizes the run. -/
def runAndSummarize (options : RunOptions) (tokenizer : Tokenizer) (tree : FileTree)
    (directory : Path) : SessionOutcome :=
  let outcome := run options tokenizer tree directory
  let progress := outcome.progress
  match outcome.error? with
  | some e => ⟨.error (.run e), progress.output, none⟩
  | none =>
    match summarize options progress.counts progress.files with
    | .error e => ⟨.error (.summary e), progress.output, e.file⟩
    | .ok summary =>
      ⟨.ok progress.counts.exitStatus, progress.output ++ summary.printed, summary.file⟩

/-- Runs what the arguments ask for. -/
def Arguments.runSession (arguments : Arguments) (registry : Registry) (tree : FileTree) :
    SessionOutcome :=
  match arguments.tokenizer.map registry.load, arguments.testDirectory with
  | none, _ => ⟨.error .noTokenizer, [], none⟩
  | some (.error e), _ => ⟨.error (.registry e), [], none⟩
  | some (.ok _), none => ⟨.error .noDirectory, [], none⟩
  | some (.ok tokenizer), some directory =>
    runAndSummarize arguments.options tokenizer tree directory

/-- Runs a session of the program with the given name from its command line. -/
def runSession (program : Text) (registry : Registry) (tree : FileTree) (line : List Text) :
    SessionOutcome :=
  match Arguments.parse line with
  | .error .help => ⟨.ok 0, Help.text program, none⟩
  | .error .error => ⟨.ok 2, [], none⟩
  | .ok arguments => arguments.runSession registry tree

end TokenConformance
