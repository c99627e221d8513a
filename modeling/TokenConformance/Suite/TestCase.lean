import TokenConformance.Escape
import TokenConformance.State
import TokenConformance.Suite.Misuse
import TokenConformance.Token.Reader
import TokenConformance.Token.Unescape

/-!
# Test cases — one entry of a test file

A test has an input and the records of the tokens expected for it.  It may name the states to start
in, a last start tag, a description and parse errors.  A double-escaped test has its input and its
expected tokens unescaped after reading.
-/

namespace TokenConformance

/-- A test of a tokenizer.  The input, too, may be any value: it is handed on as it is. -/
structure TestCase where
  description : Json
  input : Json
  expected : List Token
  initialStates : List TokenizerState
  lastStartTag : Json
  doubleEscaped : Bool
  errors : Json

/-- Why an entry is no test. -/
inductive TestError
  | missingField (name : Text)
  | record (e : RecordError)
  | escape (e : EscapeError)
  | unknownState (value : Json)
  | misuse (e : Misuse)

open Text (ofString) in
/-- What a test error says, if it says anything. -/
def TestError.message? : TestError → Option Text
  | missingField name => some (ofString "tokenizer test is missing " ++ name.quote)
  | record e => some e.message
  | escape e => some e.message
  | unknownState value => some (ofString "unknown initial state " ++ value.display)
  | misuse _ => none

namespace TestCase

open Text (ofString)

/-- The value of a member that has to be there. -/
def required (members : List (Text × Json)) (name : Text) : Except TestError Json :=
  match Json.member? name members with
  | some v => .ok v
  | none => .error (.missingField name)

/-- The input of a double-escaped test.  An input that is no text is only searched for escapes. -/
def unescapeInput (input : Json) : Except TestError Json :=
  match input with
  | .str t =>
    match Escape.unescape t with
    | .ok t => .ok (.str t)
    | .error e => .error (.escape e)
  | input =>
    match input.search (ofString "\\u") with
    | .ok false => .ok input
    | .ok true => .error (.misuse .notText)
    | .error e => .error (.misuse e)

/-- The state that an item of a list of states names. -/
def stateOf (item : Json) : Except TestError TokenizerState :=
  match item with
  | .str label =>
    match TokenizerState.ofLabel? label with
    | some state => .ok state
    | none => .error (.unknownState item)
  | item => .error (.unknownState item)

/-- The states to start in; without any that is the data state. -/
def statesOf (states : Json) : Except TestError (List TokenizerState) :=
  if states.isTruthy then
    match states.iterate with
    | .ok items => items.mapM stateOf
    | .error e => .error (.misuse e)
  else .ok [.data]

/-- The expected tokens, unescaped in a double-escaped test. -/
def unescapeExpected (expected : List Token) : Except TestError (List Token) :=
  match Token.unescapeList expected with
  | (tokens, none) => .ok tokens
  | (_, some e) => .error (.escape e)

/-- Reads a test from the members of its entry. -/
def ofMembers (members : List (Text × Json)) : Except TestError TestCase := do
  let member (name : String) := Json.member? (ofString name) members
  let input ← required members (ofString "input")
  let output ← required members (ofString "output")
  let expected ← (Token.ofRecords output).mapError .record
  let doubleEscaped := (member "doubleEscaped").any Json.isTruthy
  let input ← if doubleEscaped then unescapeInput input else pure input
  let expected ← if doubleEscaped then unescapeExpected expected else pure expected
  let initialStates ← statesOf ((member "initialStates").getD .null)
  return {
    description := (member "description").getD (.str [])
    input, expected, initialStates
    lastStartTag := (member "lastStartTag").getD .null
    doubleEscaped
    errors := (member "errors").getD (.arr []) }

/-- Reads a test from its entry. -/
def ofEntry : Json → Except TestError TestCase
  | .obj members => ofMembers members
  | _ => .error (.misuse .notIndexable)

/-- The entries of a test file. -/
def entries : Json → Except Misuse Json
  | .obj members =>
    let key := if (Json.member? (ofString "tests") members).isSome then "tests"
      else "xmlViolationTests"
    .ok ((Json.member? (ofString key) members).getD (.arr []))
  | .arr _ | .str _ => .error .noMembers
  | _ => .error .notSearchable

/-- Reads the tests of a test file. -/
def listOf (file : Json) : Except TestError (List TestCase) := do
  let tests ← (entries file).mapError .misuse
  let items ← tests.iterate.mapError .misuse
  items.mapM ofEntry

end TestCase

end TokenConformance
