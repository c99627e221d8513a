import TokenConformance.Json.Basic
import TokenConformance.OrderedMap
import TokenConformance.Text.Digit
import TokenConformance.Text.Surrogate

/-!
# Reading JSON — from text to values

The reader accepts JSON with three extensions: the numbers `NaN`, `Infinity` and `-Infinity`, lone
surrogates in strings, raw or escaped, and integers of any size up to the limit for numerals.  An
escaped high surrogate directly followed by an escaped low one is one code point.  A repeated key
keeps its first place and takes its last value.  Arrays and objects may be nested to a depth of
`maxNesting`.
-/

namespace TokenConformance

/-- Why a text is no JSON document. -/
inductive JsonError
  /-- It breaks the grammar. -/
  | malformed
  /-- It holds an integer that is too long to read. -/
  | numeral (e : NumeralError)
  /-- Its arrays and objects are nested too deeply. -/
  | tooDeep
  deriving DecidableEq, Repr

namespace Json

/-- How many arrays and objects may stand inside each other. -/
def maxNesting : Nat := 990

/-- The outcome of reading; a step that succeeds also gives the text behind what it read. -/
abbrev Read := Except JsonError

/-- Space, tab, line feed and carriage return. -/
def isSpace (c : CodePoint) : Bool := c = ' ' || c = '\t' || c = '\n' || c = '\r'

/-- The text behind the white space at its start. -/
def skipSpace (t : Text) : Text := t.dropWhile isSpace

/-- What a backslash and the letter `c` stand for. -/
def simpleEscape? (c : CodePoint) : Option CodePoint :=
  if c = '"' || c = '\\' || c = '/' then some c
  else if c = 'b' then some 0x08
  else if c = 'f' then some 0x0C
  else if c = 'n' then some 0x0A
  else if c = 'r' then some 0x0D
  else if c = 't' then some 0x09
  else none

/-- Adds an escaped code point to what was read; `paired` says that the last one was an escaped
high surrogate that may still find its second half. -/
def addEscaped (read : Text) (paired : Bool) (c : CodePoint) : Text :=
  match paired && c.isLowSurrogate, read with
  | true, high :: before => high.joinPair c :: before
  | _, _ => c :: read

/-- Reads a string up to its closing quote; `read` holds, last first, what came before. -/
def readString (read : Text) (paired : Bool) : Text → Read (Text × Text)
  | [] => .error .malformed
  | c :: rest =>
    if c = '"' then .ok (read.reverse, rest)
    else if c = '\\' then
      match rest with
      | [] => .error .malformed
      | e :: rest =>
        if e = 'u' then
          match rest with
          | h₁ :: h₂ :: h₃ :: h₄ :: rest =>
            match CodePoint.hex4? h₁ h₂ h₃ h₄ with
            | none => .error .malformed
            | some n =>
              let c := CodePoint.ofNat n
              readString (addEscaped read paired c) c.isHighSurrogate rest
          | _ => .error .malformed
        else
          match simpleEscape? e with
          | none => .error .malformed
          | some c => readString (c :: read) false rest
    else if c.val < 0x20 then .error .malformed
    else readString (c :: read) false rest

/-- The fraction digits at the start of a text: a point and at least one digit. -/
def readFraction (t : Text) : Text × Text :=
  match t with
  | point :: rest =>
    let digits := rest.takeWhile CodePoint.isDigit
    if point = '.' && !digits.isEmpty then (digits, rest.dropWhile CodePoint.isDigit) else ([], t)
  | [] => ([], [])

/-- The exponent at the start of a text, if a complete one stands there. -/
def readExponent (t : Text) : Option Int × Text :=
  match t with
  | e :: rest =>
    let (negative, rest) :=
      match rest with
      | sign :: after =>
        if sign = '-' then (true, after) else if sign = '+' then (false, after) else (false, rest)
      | [] => (false, rest)
    let digits := rest.takeWhile CodePoint.isDigit
    if (e = 'e' || e = 'E') && !digits.isEmpty then
      let n : Int := Numeral.ofDigits 10 (digits.filterMap CodePoint.hexValue?)
      (some (if negative then -n else n), rest.dropWhile CodePoint.isDigit)
    else (none, t)
  | [] => (none, [])

/-- The whole part of a number: a zero alone, or digits that do not start with one. -/
def readWhole (t : Text) : Text × Text :=
  match t with
  | c :: rest =>
    if c = '0' then ([c], rest) else (t.takeWhile CodePoint.isDigit, t.dropWhile CodePoint.isDigit)
  | [] => ([], [])

/-- Reads a number behind its sign. -/
def readNumber (negative : Bool) (t : Text) : Read (Json × Text) :=
  let (whole, rest) := readWhole t
  if whole.isEmpty then .error .malformed
  else
    let (fraction, rest) := readFraction rest
    let (exponent, rest) := readExponent rest
    if fraction.isEmpty && exponent.isNone then
      match Numeral.decimal whole with
      | .error e => .error (.numeral e)
      | .ok n => .ok (.int (if negative then -n else n), rest)
    else
      let digits := Numeral.ofDigits 10 ((whole ++ fraction).filterMap CodePoint.hexValue?)
      .ok (.float (.ofDecimal negative digits (exponent.getD 0 - fraction.length)), rest)

/-- The words that stand for values. -/
def words : List (Text × Json) := [
  ("null", .null), ("true", .bool true), ("false", .bool false), ("NaN", .float .nan),
  ("Infinity", .float (.infinite false)), ("-Infinity", .float (.infinite true))]

/-- Reads a word or a number. -/
def readScalar (t : Text) : Read (Json × Text) :=
  match words.findSome? fun (word, v) => (word.isPrefixOf? t).map fun rest => (v, rest) with
  | some step => .ok step
  | none =>
    match t with
    | c :: rest => if c = '-' then readNumber true rest else readNumber false t
    | [] => .error .malformed

/-- The text behind a punctuation mark, white space in front of it skipped. -/
def expect (mark : CodePoint) (t : Text) : Read Text :=
  match skipSpace t with
  | c :: rest => if c = mark then .ok rest else .error .malformed
  | [] => .error .malformed

mutual

/-- Reads a value in which `room` levels of nesting are left; each level and each item takes one
unit of `fuel`, and an array or object two more. -/
def readValue : (fuel room : Nat) → Text → Read (Json × Text)
  | 0, _, _ => .error .malformed
  | _ + 1, _, [] => .error .malformed
  | fuel + 1, room, c :: rest =>
    if c = '"' then do
      let (t, rest) ← readString [] false rest
      return (.str t, rest)
    else if c = '[' then
      match room with
      | 0 => .error .tooDeep
      | room + 1 => readArray fuel room (skipSpace rest)
    else if c = '\x7b' then
      match room with
      | 0 => .error .tooDeep
      | room + 1 => readObject fuel room (skipSpace rest)
    else readScalar (c :: rest)

/-- Reads an array behind its opening bracket. -/
def readArray : (fuel room : Nat) → Text → Read (Json × Text)
  | 0, _, _ => .error .malformed
  | _ + 1, _, [] => .error .malformed
  | fuel + 1, room, c :: after =>
    if c = ']' then .ok (.arr [], after)
    else do
      let (items, rest) ← readItems fuel room (c :: after) []
      return (.arr items, rest)

/-- Reads an object behind its opening brace. -/
def readObject : (fuel room : Nat) → Text → Read (Json × Text)
  | 0, _, _ => .error .malformed
  | _ + 1, _, [] => .error .malformed
  | fuel + 1, room, c :: after =>
    if c = '\x7d' then .ok (.obj [], after)
    else do
      let (members, rest) ← readMembers fuel room (c :: after) []
      return (.obj members, rest)

/-- Reads the items of an array from the first one to the closing bracket; `read` holds, last
first, the ones before. -/
def readItems : (fuel room : Nat) → Text → (read : List Json) → Read (List Json × Text)
  | 0, _, _, _ => .error .malformed
  | fuel + 1, room, t, read => do
    let (item, rest) ← readValue fuel room t
    match skipSpace rest with
    | c :: rest =>
      if c = ']' then return ((item :: read).reverse, rest)
      else if c = ',' then readItems fuel room (skipSpace rest) (item :: read)
      else .error .malformed
    | [] => .error .malformed

/-- Reads the members of an object from the first key to the closing brace; `read` holds the ones
before. -/
def readMembers :
    (fuel room : Nat) → Text → (read : List (Text × Json)) → Read (List (Text × Json) × Text)
  | 0, _, _, _ => .error .malformed
  | fuel + 1, room, t, read => do
    let (key, rest) ← readString [] false (← expect '"' t)
    let (v, rest) ← readValue fuel room (skipSpace (← expect ':' rest))
    let read := OrderedMap.insertEntry key v read
    match skipSpace rest with
    | c :: rest =>
      if c = '\x7d' then return (read, rest)
      else if c = ',' then readMembers fuel room (skipSpace rest) read
      else .error .malformed
    | [] => .error .malformed

end

/-- The value of a JSON document. -/
def parse (t : Text) : Except JsonError Json := do
  let start := skipSpace t
  let (v, rest) ← readValue (3 * start.length + 1) maxNesting start
  if (skipSpace rest).isEmpty then return v else .error .malformed

end Json

end TokenConformance
