import TokenConformance.Text.Case
import TokenConformance.Token.Record

/-!
# Reading records — from arrays to tokens

The fields of a record are checked from left to right; the first one that is missing or of the
wrong type is reported, and only then items that are too many.  Tag and doctype names and attribute
names are lowered, `A` to `Z` alone.
-/

namespace TokenConformance

/-- How many items a record should have. -/
inductive Arity
  | twoOrMore
  | exactly (n : Nat)
  | either (m n : Nat)
  deriving DecidableEq, Repr

open Text (ofString) in
/-- The number of items as messages give it. -/
def Arity.describe : Arity → Text
  | twoOrMore => ofString "2 or more"
  | exactly n => Text.ofNat n
  | either m n => Text.ofNat m ++ ofString " or " ++ Text.ofNat n

/-- What should have stood in a place. -/
inductive Expected
  | array
  | tokenArray
  | string
  | stringOrNull
  | boolean
  | object
  | attributeValue
  deriving DecidableEq, Repr

/-- What should have stood there, as messages give it. -/
def Expected.describe : Expected → String
  | array => "an array"
  | tokenArray => "an array of tokens"
  | string => "a string"
  | stringOrNull => "a string or null"
  | boolean => "a boolean"
  | object => "an object"
  | attributeValue => "a string attribute value"

/-- Why a value is no record. -/
inductive RecordError
  /-- It has `actual` items, or misses the one at that index. -/
  | invalidLength (actual : Nat) (arity : Arity)
  /-- Its first item names no kind. -/
  | unknownKind (kind : Text)
  /-- The item at a position, or without one the record itself, is of the wrong type. -/
  | invalidType (position : Option Nat) (value : Json) (expected : Expected)

open Text (ofString) in
/-- What a record error says. -/
def RecordError.message : RecordError → Text
  | invalidLength actual arity =>
    ofString "invalid length " ++ Text.ofNat actual ++ ofString ", expected " ++ arity.describe
  | unknownKind kind =>
    ofString "unknown variant `" ++ kind ++ ofString "` at position 0, expected one of " ++
      Text.join (ofString ", ") (RecordKind.all.map fun k =>
        ofString "`" ++ ofString k.name ++ ofString "`")
  | invalidType position value expected =>
    ofString "invalid type " ++ ofString value.typeName ++ ofString " at " ++
      (match position with
        | none => ofString "record"
        | some n => ofString "position " ++ Text.ofNat n) ++
      ofString ", expected " ++ ofString expected.describe

/-- The number of items in the records of a kind. -/
def RecordKind.arity : RecordKind → Arity
  | character | comment | endTag => .exactly 2
  | startTag => .either 3 4
  | doctype => .exactly 5

namespace Token

/-- The item at a position, which the arity asks for. -/
def item (items : List Json) (position : Nat) (arity : Arity) : Except RecordError Json :=
  match items[position]? with
  | some v => .ok v
  | none => .error (.invalidLength items.length arity)

/-- A text at a position. -/
def textItem (items : List Json) (position : Nat) (arity : Arity) : Except RecordError Text := do
  match ← item items position arity with
  | .str t => return t
  | v => throw (.invalidType position v .string)

/-- A text or null at a position. -/
def nullableItem (items : List Json) (position : Nat) (arity : Arity) :
    Except RecordError (Option Text) := do
  match ← item items position arity with
  | .str t => return some t
  | .null => return none
  | v => throw (.invalidType position v .stringOrNull)

/-- A truth value at a position. -/
def boolItem (items : List Json) (position : Nat) (arity : Arity) : Except RecordError Bool := do
  match ← item items position arity with
  | .bool b => return b
  | v => throw (.invalidType position v .boolean)

/-- Adds members of an object to attributes: a name that is there already, be it in other letter
case, keeps its place and takes the later value. -/
def addMembers (position : Nat) :
    OrderedMap Text Text → List (Text × Json) → Except RecordError (OrderedMap Text Text)
  | attributes, [] => .ok attributes
  | attributes, (key, .str value) :: rest =>
    addMembers position (attributes.insert key.asciiLower value) rest
  | _, (_, v) :: _ => .error (.invalidType position v .attributeValue)

/-- Attributes at a position. -/
def attributesItem (items : List Json) (position : Nat) (arity : Arity) :
    Except RecordError (OrderedMap Text Text) := do
  match ← item items position arity with
  | .obj members => addMembers position ∅ members
  | v => throw (.invalidType position v .object)

/-- Refuses items from position `size` on. -/
def noMore (items : List Json) (size : Nat) (arity : Arity) : Except RecordError Unit :=
  if size < items.length then .error (.invalidLength items.length arity) else .ok ()

/-- The token of a record whose kind is known. -/
def ofFields (kind : RecordKind) (items : List Json) : Except RecordError Token := do
  match kind with
  | .character =>
    let data ← textItem items 1 kind.arity
    noMore items 2 kind.arity
    return .text data
  | .comment =>
    let data ← textItem items 1 kind.arity
    noMore items 2 kind.arity
    return .comment data
  | .startTag =>
    let name ← textItem items 1 kind.arity
    let attributes ← attributesItem items 2 kind.arity
    let selfClosing ← if items.length ≤ 3 then pure false else boolItem items 3 kind.arity
    noMore items 4 kind.arity
    return .startTag name.asciiLower attributes selfClosing
  | .endTag =>
    let name ← textItem items 1 kind.arity
    noMore items 2 kind.arity
    return .endTag name.asciiLower
  | .doctype =>
    let name ← nullableItem items 1 kind.arity
    let publicId ← nullableItem items 2 kind.arity
    let systemId ← nullableItem items 3 kind.arity
    let correct ← boolItem items 4 kind.arity
    noMore items 5 kind.arity
    return .doctype (name.map Text.asciiLower) publicId systemId !correct

/-- The token that a record stands for. -/
def ofRecord : Json → Except RecordError Token
  | .arr [] => .error (.invalidLength 0 .twoOrMore)
  | .arr (.str kind :: fields) =>
    match RecordKind.ofName? kind with
    | some k => ofFields k (.str kind :: fields)
    | none => .error (.unknownKind kind)
  | .arr (v :: _) => .error (.invalidType (some 0) v .string)
  | v => .error (.invalidType none v .array)

/-- The tokens that an array of records stands for. -/
def ofRecords : Json → Except RecordError (List Token)
  | .arr records => records.mapM ofRecord
  | v => .error (.invalidType none v .tokenArray)

/-- The tokens of a document that holds one record or an array of records. -/
def ofDocument : Json → Except RecordError (Token ⊕ List Token)
  | .arr (.str kind :: fields) => (ofRecord (.arr (.str kind :: fields))).map .inl
  | v => (ofRecords v).map .inr

end Token

end TokenConformance
