import TokenConformance.Text.CodePoint

/-!
# Blanks — what counts as white space at the end of a text

The white space of every script, and the four ASCII separators U+001C to U+001F with it.
-/

namespace TokenConformance

/-- White space of any script. -/
def CodePoint.isBlank (c : CodePoint) : Bool :=
  (0x09 ≤ c.val && c.val ≤ 0x0D) || (0x1C ≤ c.val && c.val ≤ 0x20) || c.val = 0x85 ||
    c.val = 0xA0 || c.val = 0x1680 || (0x2000 ≤ c.val && c.val ≤ 0x200A) || c.val = 0x2028 ||
    c.val = 0x2029 || c.val = 0x202F || c.val = 0x205F || c.val = 0x3000

/-- The text without the blanks at its end. -/
def Text.trimEnd (t : Text) : Text := (t.reverse.dropWhile CodePoint.isBlank).reverse

end TokenConformance
