import TokenConformance.Proofs.Collector.Push

/-!
# The text state — one list of tokens, and a record that points at the current text

A `Collector` keeps its last text apart from the settled tokens.  A `FlatCollector` has all of its
tokens in one list and beside it a `TextState`: the place of the current text, the cursor in it, and
whether its node goes on.  A push assigns these one after another, and what was assigned before a
failure stays.

Flattening a collector commutes with pushing (`push_flatten`, `pushEach_flatten`).  So a push never
looks for a current text that is not there, and what holds of collectors holds of text states.
-/

namespace TokenConformance

/-! ## Definitions -/

section Defs

/-- The place of the current text in the list of tokens, if there is one, how much of it is decoded,
and whether its node goes on. -/
structure TextState where
  place : Option Nat
  decodedUntil : Nat
  isOpen : Bool
  deriving DecidableEq

/-- No current text. -/
def TextState.closed : TextState := ⟨none, 0, false⟩

/-- All tokens in one list, with a text state beside it. -/
structure FlatCollector where
  tokens : List Token
  text : TextState
  unterminated : Nat
  deriving DecidableEq

namespace FlatCollector

/-- Why a push fails: as a push into a collector does, or because there is no current text. -/
inductive Failure
  | push (e : PushError)
  | noText
  deriving DecidableEq

/-- Nothing collected yet. -/
def empty : FlatCollector := ⟨[], .closed, 0⟩

/-- The data of the current text. -/
def data? (s : FlatCollector) : Option Text :=
  match s.text.place.bind fun i => s.tokens[i]? with
  | some (.text data) => some data
  | _ => none

/-- Overwrites the data of the current text. -/
def setData (s : FlatCollector) (data : Text) : FlatCollector :=
  match s.text.place with
  | some i => { s with tokens := s.tokens.set i (.text data) }
  | none => s

/-- Puts a token at the end of the list. -/
def append (s : FlatCollector) (t : Token) : FlatCollector := { s with tokens := s.tokens ++ [t] }

/-- Puts raw text behind the current text, or makes it the current text. -/
def addRaw (s : FlatCollector) (raw : Text) : Except Failure FlatCollector :=
  match s.text.place, s.data? with
  | none, _ =>
    .ok ({ s with text := ⟨some s.tokens.length, 0, s.text.isOpen⟩ }.append (.text raw))
  | some _, some data => .ok (s.setData (data ++ raw))
  | some _, none => .error .noText

/-- Decodes what stands behind the cursor, and moves the cursor to the end. -/
def closeNode (s : FlatCollector) (state : TokenizerState) : FlatCollector × Option Failure :=
  match s.data? with
  | none => (s, some .noText)
  | some data =>
    match decodeText state (data.drop s.text.decodedUntil) with
    | .error e => (s, some (.push (.numeral e)))
    | .ok decoded =>
      let data := data.take s.text.decodedUntil ++ decoded
      let s := s.setData data
      ({ s with text := ⟨s.text.place, data.length, false⟩ }, none)

/-- Takes a chunk. -/
def pushText (s : FlatCollector) (chunk : TextChunk) : FlatCollector × Option Failure :=
  match s.addRaw chunk.text with
  | .error e => (s, some e)
  | .ok s =>
    if chunk.isLast then s.closeNode chunk.state
    else ({ s with text := { s.text with isOpen := true } }, none)

/-- Counts the node that is left open, and looks up its text for the trace. -/
def leaveOpen (s : FlatCollector) : FlatCollector × Option Failure :=
  if s.text.isOpen then
    ({ s with unterminated := s.unterminated + 1 }, if s.data?.isNone then some .noText else none)
  else (s, none)

/-- Takes one stream token. -/
def push (s : FlatCollector) : StreamToken → FlatCollector × Option Failure
  | .text chunk => s.pushText chunk
  | t =>
    match s.leaveOpen with
    | (s, some e) => (s, some e)
    | (s, none) =>
      let s := { s with text := .closed }
      match Collector.tokenOf t with
      | .error e => (s, some (.push e))
      | .ok token => (s.append token, none)

/-- Takes stream tokens one after another, going on behind failures, and notes the failures. -/
def pushEach (s : FlatCollector) : List StreamToken → FlatCollector × List Failure
  | [] => (s, [])
  | t :: ts =>
    let first := s.push t
    let rest := first.1.pushEach ts
    (rest.1, first.2.toList ++ rest.2)

end FlatCollector

namespace Collector

/-- The collector with its tokens in one list. -/
def flatten (c : Collector) : FlatCollector where
  tokens := c.tokens
  text := c.tail.elim .closed fun tail => ⟨some c.settled.length, tail.decodedUntil, tail.isOpen⟩
  unterminated := c.unterminated

/-- Takes stream tokens one after another, going on behind failures, and notes the failures. -/
def pushEach (c : Collector) : List StreamToken → Collector × List PushError
  | [] => (c, [])
  | t :: ts =>
    let first := c.push t
    let rest := first.collector.pushEach ts
    (rest.1, first.failure?.toList ++ rest.2)

end Collector

end Defs

namespace Collector

variable {c : Collector} {settled : List Token} {tail : TailText} {unterminated : Nat}

/-! ### The current text of a flattened collector -/

theorem data?_flatten :
    (flatten ⟨settled, some tail, unterminated⟩).data? = some tail.data := by
  simp [FlatCollector.data?, flatten, tokens]

theorem setData_flatten (data : Text) :
    (flatten ⟨settled, some tail, unterminated⟩).setData data =
      flatten ⟨settled, some { tail with data }, unterminated⟩ := by
  simp [FlatCollector.setData, flatten, tokens]

theorem addRaw_flatten (raw : Text) :
    c.flatten.addRaw raw = .ok (flatten { c with tail := some { c.currentText with
      data := c.currentText.data ++ raw } }) := by
  obtain ⟨settled, tail, unterminated⟩ := c
  cases tail with
  | none => rfl
  | some tail =>
    have hplace : (flatten ⟨settled, some tail, unterminated⟩).text.place = some settled.length :=
      rfl
    rw [FlatCollector.addRaw, hplace, data?_flatten]
    simp only [setData_flatten]
    rfl

theorem closeNode_flatten_of_error {state : TokenizerState} {e : NumeralError}
    (h : decodeText state (tail.data.drop tail.decodedUntil) = .error e) :
    (flatten ⟨settled, some tail, unterminated⟩).closeNode state =
      (flatten ⟨settled, some tail, unterminated⟩, some (.push (.numeral e))) := by
  have huntil : (flatten ⟨settled, some tail, unterminated⟩).text.decodedUntil =
      tail.decodedUntil := rfl
  simp only [FlatCollector.closeNode, data?_flatten, huntil, h]

theorem closeNode_flatten_of_ok {state : TokenizerState} {decoded : Text}
    (h : decodeText state (tail.data.drop tail.decodedUntil) = .ok decoded) :
    (flatten ⟨settled, some tail, unterminated⟩).closeNode state =
      (flatten ⟨settled, some ⟨tail.data.take tail.decodedUntil ++ decoded,
        (tail.data.take tail.decodedUntil ++ decoded).length, false⟩, unterminated⟩, none) := by
  have huntil : (flatten ⟨settled, some tail, unterminated⟩).text.decodedUntil =
      tail.decodedUntil := rfl
  simp only [FlatCollector.closeNode, data?_flatten, huntil, h, setData_flatten]
  rfl

theorem leaveOpen_flatten :
    c.flatten.leaveOpen = ({ c.flatten with
      unterminated := if c.hasOpenText then c.unterminated + 1 else c.unterminated }, none) := by
  obtain ⟨settled, tail, unterminated⟩ := c
  cases tail with
  | none => rfl
  | some tail =>
    have hopen : (flatten ⟨settled, some tail, unterminated⟩).text.isOpen = tail.isOpen := rfl
    rw [FlatCollector.leaveOpen, data?_flatten, hopen]
    cases h : tail.isOpen <;> simp [hasOpenText, h, flatten]

/-! ### Pushes -/

theorem pushText_flatten (chunk : TextChunk) :
    c.flatten.pushText chunk =
      ((c.pushText chunk).collector.flatten, (c.pushText chunk).failure?.map .push) := by
  rw [FlatCollector.pushText, addRaw_flatten]
  rcases pushText_cases c chunk with ⟨hlast, hfail, hcollector⟩ |
    ⟨e, hlast, hd, hfail, hcollector⟩ | ⟨decoded, hlast, hd, hfail, hcollector⟩
  · rw [hlast, hfail, hcollector]
    rfl
  · rw [hlast, hfail, hcollector]
    exact closeNode_flatten_of_error hd
  · rw [hlast, hfail, hcollector]
    exact closeNode_flatten_of_ok hd

/-- **Flattening commutes with a push**, and no push misses the current text. -/
theorem push_flatten (t : StreamToken) :
    c.flatten.push t = ((c.push t).collector.flatten, (c.push t).failure?.map .push) := by
  cases ht : t.isText with
  | true =>
    cases t with
    | text chunk => exact pushText_flatten chunk
    | _ => cases ht
  | false =>
    have hpush : c.flatten.push t = match Collector.tokenOf t with
        | .error e => (⟨c.tokens, .closed,
            if c.hasOpenText then c.unterminated + 1 else c.unterminated⟩, some (.push e))
        | .ok token => (⟨c.tokens ++ [token], .closed,
            if c.hasOpenText then c.unterminated + 1 else c.unterminated⟩, none) := by
      cases t with
      | text chunk => cases ht
      | _ =>
        simp only [FlatCollector.push, leaveOpen_flatten]
        rfl
    rw [hpush]
    cases htoken : tokenOf t with
    | error e =>
      obtain ⟨hfail, hcollector⟩ := push_of_tokenOf_error (c := c) ht htoken
      rw [hfail, hcollector]
      rfl
    | ok token =>
      obtain ⟨hfail, hcollector⟩ := push_of_tokenOf (c := c) ht htoken
      rw [hfail, hcollector]
      rfl

/-- Flattening commutes with pushes, failed ones included. -/
theorem pushEach_flatten : ∀ (ts : List StreamToken) {c : Collector},
    c.flatten.pushEach ts = ((c.pushEach ts).1.flatten, (c.pushEach ts).2.map .push)
  | [], c => rfl
  | t :: ts, c => by
    have ih := pushEach_flatten ts (c := (c.push t).collector)
    rw [FlatCollector.pushEach, pushEach, push_flatten, ih]
    cases (c.push t).failure? <;> rfl

end Collector
end TokenConformance
