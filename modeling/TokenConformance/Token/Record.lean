import TokenConformance.Json.Display
import TokenConformance.Token.Basic

/-!
# Token records — the arrays that stand for tokens in test files

A record is an array whose first item names the kind of token; the other items are its fields.
The last field of a doctype says that it is correct, the opposite of forcing quirks mode, and a
start tag has a fourth item only when it closes itself.
-/

namespace TokenConformance

/-- The kinds of record. -/
inductive RecordKind
  | character
  | comment
  | startTag
  | endTag
  | doctype
  deriving DecidableEq, Repr

namespace RecordKind

/-- All kinds, in the order in which messages list them. -/
def all : List RecordKind := [character, comment, startTag, endTag, doctype]

/-- The name of a kind, the first item of its records. -/
def name : RecordKind → String
  | character => "Character"
  | comment => "Comment"
  | startTag => "StartTag"
  | endTag => "EndTag"
  | doctype => "DOCTYPE"

/-- The kind with the given name. -/
def ofName? (name : Text) : Option RecordKind :=
  all.find? fun kind => decide (Text.ofString kind.name = name)

/-- The kind's name as the first item of a record. -/
def toJson (kind : RecordKind) : Json := .str (Text.ofString kind.name)

end RecordKind

/-- A text or null. -/
def Json.ofOption : Option Text → Json
  | none => .null
  | some t => .str t

namespace Token

/-- Attributes as an object. -/
def attributesToJson (attributes : OrderedMap Text Text) : Json :=
  .obj (attributes.entries.map fun (key, value) => (key, .str value))

/-- The record that stands for a token. -/
def toRecord : Token → Json
  | text data => .arr [RecordKind.character.toJson, .str data]
  | comment data => .arr [RecordKind.comment.toJson, .str data]
  | startTag name attributes selfClosing =>
    .arr ([RecordKind.startTag.toJson, .str name, attributesToJson attributes] ++
      if selfClosing then [.bool true] else [])
  | endTag name => .arr [RecordKind.endTag.toJson, .str name]
  | doctype name publicId systemId forceQuirks =>
    .arr [RecordKind.doctype.toJson, .ofOption name, .ofOption publicId, .ofOption systemId,
      .bool !forceQuirks]

/-- The record of a token as reports show it. -/
def displayRecord (t : Token) : Text := t.toRecord.display

open Text (ofString) in
/-- A token with the names of its fields, as traces show it. -/
def display : Token → Text
  | text data => ofString "Text(data=" ++ data.quote ++ ofString ")"
  | comment data => ofString "Comment(data=" ++ data.quote ++ ofString ")"
  | startTag name attributes selfClosing =>
    ofString "StartTag(name=" ++ name.quote ++ ofString ", attributes=" ++
      (attributesToJson attributes).display ++ ofString ", self_closing=" ++
      (Json.bool selfClosing).display ++ ofString ")"
  | endTag name => ofString "EndTag(name=" ++ name.quote ++ ofString ")"
  | doctype name publicId systemId forceQuirks =>
    ofString "Doctype(name=" ++ (Json.ofOption name).display ++ ofString ", public_id=" ++
      (Json.ofOption publicId).display ++ ofString ", system_id=" ++
      (Json.ofOption systemId).display ++ ofString ", force_quirks=" ++
      (Json.bool forceQuirks).display ++ ofString ")"

end Token

end TokenConformance
