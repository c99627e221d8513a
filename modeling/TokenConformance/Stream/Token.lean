import TokenConformance.State
import TokenConformance.Stream.Attribute
import TokenConformance.Token.Record

/-!
# Stream tokens — what a tokenizer emits

Every field is a raw slice of the source.  A text node may come in several chunks, of which only
the final one is marked as the last.  A stream may also hold values that are no tokens at all.
-/

namespace TokenConformance

/-- A piece of a text node. -/
structure TextChunk where
  text : Text
  state : TokenizerState
  isLast : Bool
  deriving DecidableEq

/-- A token as a tokenizer emits it; a `foreign` value is only known by the name of its type. -/
inductive StreamToken
  | text (chunk : TextChunk)
  | startTag (name : Text) (attributes : List Attribute) (selfClosing : Bool)
  | endTag (name : Text) (attributes : List Attribute) (selfClosing : Bool)
  | comment (data : Text)
  | doctype (name publicId systemId : Option Text) (forceQuirks : Bool)
  | foreign (typeName : Text)
  deriving DecidableEq

/-- A token before its construction, which fails where the attributes of a tag are not well
declared.  Tags of kind zero are start tags, all others end tags. -/
inductive TokenDraft
  | tag (kind : Int) (name : Text) (declared : Option Declarations) (selfClosing : Bool)
  | ready (token : StreamToken)

/-- Constructs the token. -/
def TokenDraft.construct : TokenDraft → Except DeclarationError StreamToken
  | ready token => .ok token
  | tag kind name declared selfClosing => do
    let attributes ← match declared with
      | none => pure []
      | some declarations => declarations.toAttributes
    if kind = 0 then return .startTag name attributes selfClosing
    else return .endTag name attributes selfClosing

namespace StreamToken

open Text (ofString)

/-- A tag as traces show it. -/
def displayTag (kind : String) (name : Text) (attributes : List Attribute) (selfClosing : Bool) :
    Text :=
  ofString "<" ++ ofString kind ++ ofString ":" ++ name ++
    ofString (if selfClosing then " / " else " ") ++
    Text.join (ofString " ") (attributes.map Attribute.display) ++ ofString ">"

/-- A stream token as traces show it. -/
def display : StreamToken → Text
  | text chunk =>
    ofString "<text:" ++ ofString chunk.state.name ++ ofString " " ++ chunk.text.quote ++
      ofString (if chunk.isLast then ">" else " ...>")
  | startTag name attributes selfClosing => displayTag "start" name attributes selfClosing
  | endTag name attributes selfClosing => displayTag "end" name attributes selfClosing
  | comment data => ofString "<comment " ++ data.quote ++ ofString ">"
  | doctype name publicId systemId forceQuirks =>
    ofString "<doctype " ++ (Json.ofOption name).display ++ ofString " " ++
      (Json.ofOption publicId).display ++ ofString " " ++ (Json.ofOption systemId).display ++
      ofString " quirks=" ++ (Json.bool forceQuirks).display ++ ofString ">"
  | foreign typeName => typeName

end StreamToken

end TokenConformance
