import TokenConformance.CommandLine.Session
import TokenConformance.Tokenizer.Scripted

/-!
# The program — a session on the files given on standard input

The files come as one JSON document, an array of pairs of a path and a text.  The tokenizer
`standin:tokenize` is plugged in.  What the session prints goes to standard output, and a summary
file behind it under its name.
-/

namespace TokenConformance

/-- The files of a document, seen from the working directory. -/
def FileTree.ofDocument? : Json → Option FileTree
  | .arr items => items.foldlM (fun tree item =>
      match item with
      | .arr [.str path, .str content] => some (tree.add (Path.ofText path).names content)
      | _ => none) (FileTree.empty [])
  | _ => none

/-- The modules that the program knows. -/
def builtinModules : Registry :=
  [(Text.ofString "standin", [(Text.ofString "tokenize", .tokenizer standIn)])]

/-- A text for a terminal: lone surrogates are replaced. -/
def Text.lossyString (t : Text) : String :=
  String.ofList (t.map fun c => c.toChar?.getD '\ufffd')

/-- What a session error says, for a reader. -/
def SessionError.describe : SessionError → Text
  | noTokenizer => Text.ofString "the tokenizer has no name"
  | registry e => (e.message?).getD (Text.ofString "tokenizer not found")
  | noDirectory => Text.ofString "the test directory has no path"
  | run (.load (.test e)) => (e.message?).getD (Text.ofString "malformed test file")
  | run (.load _) => Text.ofString "unreadable test file"
  | run (.call _) => Text.ofString "the tokenizer failed"
  | run _ => Text.ofString "the tests could not be selected"
  | summary _ => Text.ofString "the summary could not be written"

end TokenConformance

open TokenConformance in
def main (line : List String) : IO UInt32 := do
  let source ← (← IO.getStdin).readToEnd
  match (Json.parse (Text.ofString source)).toOption.bind FileTree.ofDocument? with
  | none =>
    IO.eprintln "expected an array of paths and texts"
    return 2
  | some tree =>
    let program := Text.ofString "token-conformance"
    let outcome := runSession program builtinModules tree (line.map Text.ofString)
    IO.print (Text.lossyString outcome.output)
    if let some content := outcome.summaryFile then
      IO.println "== test-summary.txt =="
      IO.println (Text.lossyString content)
    match outcome.status with
    | .ok status => return UInt32.ofNat status
    | .error e =>
      IO.eprintln (Text.lossyString e.describe)
      return 1
