import TokenConformance.CommandLine.Session

/-!
# Inspecting a test — one test of one file, shown in full

The test is shown with its expected tokens and, for each of its states, the trace, the actual
tokens and the differences.  What was printed before a failure stays printed.
-/

namespace TokenConformance

open Text (ofString)

/-- Why an inspection was broken off. -/
inductive InspectError
  | load (e : LoadError)
  | registry (e : RegistryError)
  | call (e : CollectError)

/-- What an inspection printed, and the error if it was broken off. -/
structure Inspection where
  output : Text
  error? : Option InspectError

namespace Inspection

/-- Prints something and then goes on. -/
def after (output : Text) (next : Inspection) : Inspection := ⟨output ++ next.output, next.error?⟩

/-- Ends with an error. -/
def broken (e : InspectError) : Inspection := ⟨[], some e⟩

/-- Prints something and ends. -/
def done (output : Text) : Inspection := ⟨output, none⟩

end Inspection

namespace Inspect

/-- What stands at an index of a list of tests. -/
inductive Picked
  | found (v : Json)
  | pastEnd (size : Nat)

/-- Looks an index up, from the end where it is negative.  Only past the end is no error. -/
def pickFrom (items : List Json) (index : Int) : Except Misuse Picked :=
  if (items.length : Int) ≤ index then .ok (.pastEnd items.length)
  else
    let position := if index < 0 then index + items.length else index
    match if position < 0 then none else items[position.toNat]? with
    | some v => .ok (.found v)
    | none => .error .outOfRange

/-- Looks an index up in the tests of a file, whatever they are. -/
def pick (tests : Json) (index : Int) : Except Misuse Picked :=
  match tests with
  | .arr items => pickFrom items index
  | .str t => pickFrom (t.map fun c => .str [c]) index
  | .obj members =>
    if (members.length : Int) ≤ index then .ok (.pastEnd members.length)
    else .error .noSuchMember
  | _ => .error .notMeasurable

/-- A line for each token. -/
def tokenLines (tokens : List Token) : Text :=
  tokens.flatMap fun t => Text.line (ofString "  " ++ t.displayRecord)

/-- How two lists of tokens compare: the positions where both have a token and the tokens differ,
and the lengths where they differ. -/
inductive Comparison
  | passed
  | mismatch (differences : List (Nat × Token × Token)) (lengths? : Option (Nat × Nat))
  deriving DecidableEq

/-- The positions, counted from `index`, where two lists both have a token and differ. -/
def differences : (index : Nat) → List Token → List Token → List (Nat × Token × Token)
  | index, s :: expected, t :: actual =>
    if s.same t then differences (index + 1) expected actual
    else (index, s, t) :: differences (index + 1) expected actual
  | _, _, _ => []

/-- Compares the actual tokens with the expected ones. -/
def compare (expected actual : List Token) : Comparison :=
  if Token.sameList actual expected then .passed
  else
    let lengths? :=
      if expected.length = actual.length then none else some (expected.length, actual.length)
    .mismatch (differences 0 expected actual) lengths?

/-- A comparison in words. -/
def Comparison.text : Comparison → Text
  | passed => Text.line (ofString "\nPASSED")
  | mismatch differences lengths? =>
    Text.line (ofString "\n!!! MISMATCH !!!") ++ Text.line (ofString "\nDifferences:") ++
      differences.flatMap (fun (index, s, t) =>
        Text.line (ofString "  Token " ++ Text.ofNat index ++ ofString ": expected " ++
          s.displayRecord ++ ofString ", got " ++ t.displayRecord)) ++
      match lengths? with
      | none => []
      | some (m, n) =>
        Text.line (ofString "  Length: expected " ++ Text.ofNat m ++ ofString ", got " ++
          Text.ofNat n)

/-- A headline that names a state. -/
def stateLine (headline : String) (state : TokenizerState) : Text :=
  Text.line (ofString headline ++ ofString " (state: " ++ ofString state.label ++ ofString "):")

/-- Runs a test in states one after another. -/
def states (tokenizer : Tokenizer) (test : TestCase) : List TokenizerState → Inspection
  | [] => .done []
  | state :: rest =>
    let collected := (tokenizer test.input state test.lastStartTag).collect
    .after (stateLine "\nAccumulator trace" state ++ traceText collected.events) <|
      match collected.failure? with
      | some e => .broken (.call e)
      | none =>
        .after (stateLine "\nActual tokens" state ++ tokenLines collected.tokens ++
          (compare test.expected collected.tokens).text) (states tokenizer test rest)

/-- What is printed of a test before it is run. -/
def heading (test : TestCase) (filename : Text) (index : Int) : Text :=
  let description := if test.description.isTruthy then test.description.plain else ofString "N/A"
  let labels := test.initialStates.map fun state => Json.str (ofString state.label)
  Text.line (ofString "=== Test " ++ Text.ofInt index ++ ofString " from " ++ filename ++
      ofString " ===") ++
    Text.line (ofString "Input: " ++ test.input.display) ++
    Text.line (ofString "Description: " ++ description) ++
    Text.line (ofString "Initial states: " ++ (Json.arr labels).display) ++
    Text.line (ofString "Last start tag: " ++ test.lastStartTag.plain) ++
    Text.line (ofString "\nExpected tokens:") ++ tokenLines test.expected

/-- Shows a test and runs it with the tokenizer of the given name. -/
def test (registry : Registry) (spec : Text) (t : TestCase) (filename : Text) (index : Int) :
    Inspection :=
  .after (heading t filename index) <|
    match registry.load spec with
    | .error e => .broken (.registry e)
    | .ok tokenizer => states tokenizer t t.initialStates

/-- Inspects a test in the text of its file. -/
def content (registry : Registry) (spec : Text) (fileContent : Text) (filename : Text)
    (index : Int) : Inspection :=
  match Suite.readJson fileContent with
  | .error e => .broken (.load e)
  | .ok file =>
    match TestCase.entries file >>= (pick · index) with
    | .error e => .broken (.load (.test (.misuse e)))
    | .ok (.pastEnd size) =>
      .done <| Text.line <| ofString "Test index " ++ Text.ofInt index ++
        ofString " out of range (max: " ++ Text.ofInt ((size : Int) - 1) ++ ofString ")"
    | .ok (.found v) =>
      match TestCase.ofEntry v with
      | .error e => .broken (.load (.test e))
      | .ok t => test registry spec t filename index

end Inspect

/-- Inspects the test at an index of a file in the default directory. -/
def inspect (registry : Registry) (tree : FileTree) (spec filename : Text) (index : Int) :
    Inspection :=
  let path := defaultTestDirectory.join (.ofText filename)
  match tree.locate path with
  | none => .done (Text.line (ofString "File not found: " ++ path.toText))
  | some (.directory _) | some .root => .broken (.load .directory)
  | some .tooLong => .broken (.load .pathTooLong)
  | some (.file fileContent) => Inspect.content registry spec fileContent filename index

end TokenConformance
