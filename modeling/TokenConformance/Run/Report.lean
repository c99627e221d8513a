import TokenConformance.NaturalOrder
import TokenConformance.Number.Binary64
import TokenConformance.Run.Options
import TokenConformance.Run.Result
import TokenConformance.Text.Blank
import TokenConformance.Text.Utf8

/-!
# Reports — failures and summary in words

A failure shows description, input, expected and actual tokens, and the trace where it was
recorded.  The summary has a header and a line for each file, in natural order of their names.
Percentages are rounded from the floating point quotient, a half to the even neighbour.  There is no
summary where a quotient is out of the floating point range or a number is too long to be written.
-/

namespace TokenConformance

open Text (ofString)

/-- A failing result in words; nothing for other results. -/
def TestResult.report (result : TestResult) (verbosity : Nat) : Text :=
  if result.verdict ≠ .fail then []
  else
    let records (tokens : List Token) : Text :=
      Text.join (ofString "\n") (tokens.map Token.displayRecord)
    let trace :=
      if 2 ≤ verbosity && !result.trace.isEmpty then
        [ofString "=== ACCUMULATOR TRACE ===\n" ++ result.trace.trimEnd ++ ofString "\n"]
      else []
    Text.line <| Text.join (ofString "\n") <|
      [ofString "FAILED:",
        ofString "=== DESCRIPTION ===\n" ++ result.description.plain ++ ofString "\n",
        ofString "=== INPUT (" ++ ofString result.state.label ++ ofString ") ===\n" ++
          result.input.display ++ ofString "\n"] ++
      trace ++
      [ofString "=== EXPECTED TOKENS ===\n" ++ records result.expected ++ ofString "\n",
        ofString "=== ACTUAL TOKENS ===\n" ++ records result.actual]

/-- Why there is no summary. -/
inductive SummaryError
  /-- The names of the files cannot be put in order. -/
  | order (e : NaturalError)
  /-- A quotient is out of the floating point range. -/
  | quotient
  /-- A number cannot be written. -/
  | numeral (e : NumeralError)
  /-- The summary file cannot hold the name of a file. -/
  | encoding
  deriving DecidableEq, Repr

/-- What the summary file holds after the error: it is emptied before its text is encoded. -/
def SummaryError.file : SummaryError → Option Text
  | encoding => some []
  | _ => none

/-- The percentage that `part` is of `total`, and zero of nothing. -/
def percentage (part total : Int) : Except SummaryError Int :=
  if total = 0 then .ok 0
  else
    match (Binary64.ofQuotient (part * 100) total).round? with
    | some n => .ok n
    | none => .error .quotient

/-- The numeral of a number in a summary. -/
def summaryNumeral (n : Int) : Except SummaryError Text :=
  if Numeral.isWritable n then .ok (Text.ofInt n) else .error (.numeral .tooLong)

/-- A quotient with its percentage. -/
def shareText (part total : Int) : Except SummaryError Text := do
  let share ← percentage part total
  return (← summaryNumeral part) ++ ofString "/" ++ (← summaryNumeral total) ++ ofString " (" ++
    Text.ofInt share ++ ofString "%)"

/-- The note on skipped tests. -/
def skippedText (skipped : Int) : Except SummaryError Text := do
  return ofString " (" ++ (← summaryNumeral skipped) ++ ofString " skipped)"

/-- The first line of the summary. -/
def Counts.header (counts : Counts) : Except SummaryError Text := do
  return ofString "Tests passed: " ++ (← shareText counts.passed (counts.passed + counts.failed)) ++
    (← skippedText counts.skipped)

namespace FileResult

/-- The signs of the verdicts in order of the tests' indices. -/
def pattern (result : FileResult) : Text :=
  (result.verdicts.mergeSort fun p q => decide (p.2 ≤ q.2)).map fun p => p.1.symbol

/-- The line of a file in the summary. -/
def line (name : Text) (result : FileResult) : Except SummaryError Text := do
  let counts := result.counts
  let runnable := counts.passed + counts.failed
  let share ←
    if 0 < runnable then shareText counts.passed runnable else pure (ofString "0/0 (N/A)")
  let pattern :=
    if result.pattern.isEmpty then [] else ofString " [" ++ result.pattern ++ ofString "]"
  let skipped ← if counts.skipped = 0 then pure [] else skippedText counts.skipped
  return name ++ ofString ": " ++ share ++ pattern ++ skipped

end FileResult

/-- A summary: what is printed, and what the summary file holds if one is written. -/
structure Summary where
  printed : Text
  file : Option Text
  deriving DecidableEq

/-- The header and a line for each file. -/
def detailedSummary (header : Text) (files : FileResults) : Except SummaryError Text := do
  let sorted ← (Natural.sortBy Prod.fst files.entries).mapError .order
  let lines ← sorted.mapM fun (name, result) => result.line name
  return Text.join (ofString "\n") ([header, []] ++ lines)

/-- The summary of a run.  Only a full run writes the summary file, and writes all of it even when
it prints quietly. -/
def summarize (options : RunOptions) (counts : Counts) (files : FileResults) :
    Except SummaryError Summary := do
  let header ← counts.header
  let detailed ← if files.entries.isEmpty then pure header else detailedSummary header files
  if options.isFullRun && !detailed.isEncodable then throw .encoding
  let shown := if options.quiet then header else detailed
  return ⟨Text.line shown, if options.isFullRun then some detailed else none⟩

end TokenConformance
