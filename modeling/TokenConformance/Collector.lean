import TokenConformance.Decoding
import TokenConformance.Stream.Token
import TokenConformance.Token.Unescape

/-!
# The collector — from stream tokens to tokens in normal form

A `Collector` takes stream tokens one by one.  Text chunks gather raw in a text node at the tail of
the list, and the node is decoded when its last chunk arrives.  A text node that follows another
goes on in the same token; the cursor `decodedUntil` marks where its raw part starts.  Any other
token closes the text.  A push that fails says why, and what it did before failing stays.
-/

namespace TokenConformance

/-- The text token at the tail: the code points before `decodedUntil` are decoded, and `isOpen`
says that a chunk of its last node is still to come. -/
structure TailText where
  data : Text
  decodedUntil : Nat
  isOpen : Bool
  deriving DecidableEq

/-- The tokens collected so far: those that are `settled`, then the text at the tail if the last
push was text.  `unterminated` counts the text nodes that were closed before their last chunk. -/
structure Collector where
  settled : List Token
  tail : Option TailText
  unterminated : Nat
  deriving DecidableEq

/-- Why a push failed. -/
inductive PushError
  /-- The value pushed is no stream token. -/
  | unsupported (typeName : Text)
  /-- A reference in it cannot be decoded. -/
  | numeral (e : NumeralError)
  deriving DecidableEq

/-- What a push error says, if it says anything. -/
def PushError.message? : PushError → Option Text
  | unsupported typeName => some (Text.ofString "Unsupported token type: " ++ typeName)
  | numeral _ => none

/-- What happens in a push. -/
inductive TraceEvent
  | leftOpen (data : Text)
  | collected (t : Token)
  | closed (data : Text)
  | continues (chunk : Text)
  deriving DecidableEq

namespace TraceEvent

open Text (ofString)

/-- An event in words. -/
def describe : TraceEvent → Text
  | leftOpen data => ofString "text node left open: " ++ data.quote
  | collected t => ofString "token: " ++ t.display
  | closed data => ofString "text closed: " ++ data.quote
  | continues chunk => ofString "text chunk: " ++ chunk.quote ++ ofString " (node continues)"

end TraceEvent

/-- A line of a trace, set in by `indent` blanks. -/
def traceLine (indent : Nat) (message : Text) : Text :=
  Text.line (List.replicate indent 0x20 ++ message)

/-- Why a line of a trace cannot be set in. -/
inductive IndentError
  /-- The indent takes more than 64 bits. -/
  | outOfRange
  /-- There is no room for so many blanks. -/
  | noRoom
  deriving DecidableEq, Repr

/-- The most blanks that a line of a trace has room for. -/
def maxIndent : Int := 0x10000000

/-- A line of a trace for any indent; a negative one gives no blanks. -/
def traceLineAt (indent : Int) (message : Text) : Except IndentError Text :=
  if indent < -0x8000000000000000 ∨ 0x8000000000000000 ≤ indent then .error .outOfRange
  else if maxIndent < indent then .error .noRoom
  else .ok (traceLine indent.toNat message)

/-- Events as the lines of a trace. -/
def traceText (events : List TraceEvent) : Text :=
  events.flatMap fun event => traceLine 4 event.describe

/-- The outcome of pushing: the collector afterwards, what happened, and the failure if there was
one. -/
structure Pushed where
  collector : Collector
  events : List TraceEvent
  failure? : Option PushError
  deriving DecidableEq

namespace Collector

/-- A collector without tokens. -/
def empty : Collector := ⟨[], none, 0⟩

/-- All tokens collected so far, the text at the tail as it stands. -/
def tokens (c : Collector) : List Token :=
  match c.tail with
  | none => c.settled
  | some tail => c.settled ++ [.text tail.data]

/-- Whether a text node is still waiting for its last chunk. -/
def hasOpenText (c : Collector) : Bool := c.tail.any TailText.isOpen

/-- The decoded attributes of a start tag. -/
def decodeAttributes (attributes : List Attribute) :
    Except NumeralError (OrderedMap Text Text) := do
  let pairs ← attributes.mapM fun a => do
    return (a.name.replaceNulls, ← decodeAttributeValue a.value)
  return firstWins pairs

/-- The token that a stream token other than text stands for. -/
def tokenOf : StreamToken → Except PushError Token
  | .comment data => .ok (.comment data.replaceNulls)
  | .startTag name attributes selfClosing =>
    match decodeAttributes attributes with
    | .ok attributes => .ok (.startTag name.replaceNulls attributes selfClosing)
    | .error e => .error (.numeral e)
  | .endTag name _ _ => .ok (.endTag name.replaceNulls)
  | .doctype name publicId systemId forceQuirks =>
    .ok (.doctype (name.map Text.replaceNulls) (publicId.map Text.replaceNulls)
      (systemId.map Text.replaceNulls) forceQuirks)
  | .text chunk => .ok (.text chunk.text)
  | .foreign typeName => .error (.unsupported typeName)

/-- The collector with its text closed, and the event that tells of a node left open. -/
def closeText (c : Collector) : Collector × List TraceEvent :=
  match c.tail with
  | none => (c, [])
  | some tail =>
    (⟨c.tokens, none, if tail.isOpen then c.unterminated + 1 else c.unterminated⟩,
      if tail.isOpen then [.leftOpen tail.data] else [])

/-- Adds a chunk to the text at the tail, and decodes the node when the chunk is its last. -/
def pushText (c : Collector) (chunk : TextChunk) : Pushed :=
  let tail := match c.tail with
    | none => ⟨chunk.text, 0, false⟩
    | some tail => { tail with data := tail.data ++ chunk.text }
  let started := if c.tail.isNone then [.collected (.text chunk.text)] else []
  if chunk.isLast then
    match decodeText chunk.state (tail.data.drop tail.decodedUntil) with
    | .error e => ⟨{ c with tail := some tail }, started, some (.numeral e)⟩
    | .ok decoded =>
      let data := tail.data.take tail.decodedUntil ++ decoded
      ⟨{ c with tail := some ⟨data, data.length, false⟩ }, started ++ [.closed data], none⟩
  else
    ⟨{ c with tail := some { tail with isOpen := true } }, started ++ [.continues chunk.text], none⟩

/-- Takes one stream token. -/
def push (c : Collector) : StreamToken → Pushed
  | .text chunk => c.pushText chunk
  | token =>
    let (closed, events) := c.closeText
    match tokenOf token with
    | .error e => ⟨closed, events, some e⟩
    | .ok t => ⟨{ closed with settled := closed.settled ++ [t] }, events ++ [.collected t], none⟩

/-- Takes stream tokens one after another up to the first failure. -/
def pushAll (c : Collector) : List StreamToken → Pushed
  | [] => ⟨c, [], none⟩
  | token :: rest =>
    let first := c.push token
    match first.failure? with
    | some _ => first
    | none =>
      let others := first.collector.pushAll rest
      ⟨others.collector, first.events ++ others.events, others.failure?⟩

/-- Unescapes the collected tokens where they stand.  The cursor in the text at the tail stays. -/
def unescape (c : Collector) : Collector × Option EscapeError :=
  let (settled, failure) := Token.unescapeList c.settled
  match c.tail, failure with
  | some tail, none =>
    let (data, failure) := Escape.unescapeOrKeep tail.data
    ({ c with settled, tail := some { tail with data } }, failure)
  | _, _ => ({ c with settled }, failure)

end Collector

end TokenConformance
