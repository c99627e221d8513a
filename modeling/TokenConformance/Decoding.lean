import TokenConformance.Reference.Decode
import TokenConformance.State

/-!
# Decoding raw text — from slices of the source to what a test expects

A tokenizer hands out raw slices of its input.  Names and comments have their nulls replaced,
attribute values their nulls and references, and text what its kind asks for.
-/

namespace TokenConformance

/-- Puts U+FFFD in place of each null character. -/
def Text.replaceNulls (t : Text) : Text := t.map fun c => if c = 0 then .replacement else c

/-- Decodes text of the given kind: nulls first, references second. -/
def decodeText (state : TokenizerState) (t : Text) : Except NumeralError Text :=
  let t := if state.replacesNulls then t.replaceNulls else t
  if state.allowsReferences then Reference.decode false t else .ok t

/-- Decodes an attribute value: nulls first, references second. -/
def decodeAttributeValue (t : Text) : Except NumeralError Text :=
  Reference.decode true t.replaceNulls

end TokenConformance
