import TokenConformance.Collector
import TokenConformance.CommandLine.Inspect
import TokenConformance.Decoding
import TokenConformance.Escape
import TokenConformance.Json.Display
import TokenConformance.Json.Reader
import TokenConformance.Main
import TokenConformance.NaturalOrder
import TokenConformance.Reference.Decode
import TokenConformance.Run.Execute
import TokenConformance.Suite.Load
import TokenConformance.Suite.TestCase
import TokenConformance.Text.Blank
import TokenConformance.Text.Case
import TokenConformance.Text.Utf8
import TokenConformance.Token.Reader
import TokenConformance.Token.Unescape
import TokenConformance.Tokenizer.Registry
import TokenConformance.Tokenizer.Scripted
import TokenConformance.Proofs.Reference.LongestName
import TokenConformance.Proofs.Reference.DecodeLaws
import TokenConformance.Proofs.Reference.Machine
import TokenConformance.Proofs.Reference.MachineDecode
import TokenConformance.Proofs.Collector.Push
import TokenConformance.Proofs.Collector.Reading
import TokenConformance.Proofs.OrderedMapLaws
import TokenConformance.Proofs.Escape.Written
import TokenConformance.Proofs.Token.RecordLaws
import TokenConformance.Proofs.Suite.DoubleEscaped
import TokenConformance.Proofs.Collector.Faithful
import TokenConformance.Proofs.Collector.TextState
import TokenConformance.Proofs.ExceptLaws
import TokenConformance.Proofs.Collector.Invariant
import TokenConformance.Proofs.Text.Pieces
import TokenConformance.Proofs.NaturalOrder.Sorted
import TokenConformance.Proofs.Reference.TrieLookup
import TokenConformance.Proofs.Suite.Files
import TokenConformance.Proofs.Run.Selection
import TokenConformance.Proofs.Run.Verdicts
import TokenConformance.Proofs.Run.Progress
import TokenConformance.Proofs.Run.Trail
import TokenConformance.Proofs.Run.Loading
import TokenConformance.Proofs.Run.Executed
import TokenConformance.Proofs.Run.Accounting
import TokenConformance.Proofs.CommandLine.SummaryFile
import TokenConformance.Proofs.Token.Grammar
import TokenConformance.Proofs.Reference.Nulls
import TokenConformance.Proofs.Collector.Nulls
import TokenConformance.Proofs.Run.OutputFlags
import TokenConformance.Proofs.Escape.Occurrences
import TokenConformance.Proofs.Token.RoundTrip
import TokenConformance.Proofs.Reference.Append
import TokenConformance.Proofs.Reference.Failure
import TokenConformance.Proofs.Collector.Failures
import TokenConformance.Proofs.Escape.Lowering
import TokenConformance.Proofs.Suite.MalformedEscapes
import TokenConformance.Proofs.Reference.NullReplacement
import TokenConformance.Proofs.Token.Rejection
import TokenConformance.Proofs.Suite.UnescapePass
import TokenConformance.Proofs.Text.Numerals
import TokenConformance.Proofs.Text.Lowering
import TokenConformance.Proofs.NaturalOrder.Chunks
import TokenConformance.Proofs.Collector.FirstWins
import TokenConformance.Proofs.NaturalOrder.Keys
import TokenConformance.Proofs.NaturalOrder.Directory
import TokenConformance.Proofs.Number.Quotients
import TokenConformance.Proofs.Run.SummaryOrder
import TokenConformance.Proofs.CommandLine.Reported
import TokenConformance.Proofs.Text.PrefixFree
import TokenConformance.Proofs.Text.Quoted
import TokenConformance.Proofs.Json.Displayed
import TokenConformance.Proofs.Token.Sameness
import TokenConformance.Proofs.Token.Displayed
import TokenConformance.Proofs.CommandLine.Differences
import TokenConformance.Proofs.CommandLine.Inspected
import TokenConformance.Proofs.Run.Raising
import TokenConformance.Proofs.Run.Aborted
import TokenConformance.Proofs.Escape.Shortcut
import TokenConformance.Proofs.Reference.PositionSearch
