import TokenConformance.OrderedMap
import TokenConformance.Text.CodePoint

/-!
# Tokens — the normal form that both sides of a comparison reduce to

What a test expects and what a tokenizer delivered are both lists of `Token`.  Two tokens are the
`same` when they agree in everything but the order of their attributes.
-/

namespace TokenConformance

/-- A token in normal form. -/
inductive Token
  | text (data : Text)
  | comment (data : Text)
  | startTag (name : Text) (attributes : OrderedMap Text Text) (selfClosing : Bool)
  | endTag (name : Text)
  | doctype (name publicId systemId : Option Text) (forceQuirks : Bool)
  deriving DecidableEq

namespace Token

/-- Whether two tokens agree, the order of attributes aside. -/
def same : Token → Token → Bool
  | startTag n a c, startTag n' a' c' => n == n' && a.similar a' && c == c'
  | s, t => s == t

/-- Whether two lists hold the same tokens in the same order. -/
def sameList : List Token → List Token → Bool
  | [], [] => true
  | s :: ss, t :: ts => s.same t && sameList ss ts
  | _, _ => false

end Token

end TokenConformance
