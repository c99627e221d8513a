import TokenConformance.Text.CodePoint
import TokenConformance.Text.PrintableTable

/-!
# Quoted text — the written form of a text in messages and reports

A text is written between apostrophes, or between double quotes when it holds an apostrophe and no
double quote.  The quote in use, the backslash and whatever cannot be printed are escaped.  Which
code points beyond ASCII count as printable is a parameter of `quoteWith`; `quote` takes it from
`unprintableRanges`.
-/

namespace TokenConformance

/-- Whether a code point beyond ASCII may stand for itself in a quoted text. -/
def CodePoint.isPrintable (c : CodePoint) : Bool :=
  !Text.unprintableRanges.any fun (first, last) => first ≤ c.val && c.val ≤ last

namespace Text

/-- The hexadecimal digit with value `n`, in lower case. -/
def hexDigit (n : Nat) : CodePoint := CodePoint.ofNat (if n < 10 then 0x30 + n else 0x57 + n)

/-- The last `width` hexadecimal digits of `n`, in lower case. -/
def hexDigits : (width : Nat) → (n : Nat) → Text
  | 0, _ => []
  | width + 1, n => hexDigits width (n / 16) ++ [hexDigit (n % 16)]

/-- The number of a code point as an escape of two, four or eight digits. -/
def numericEscape (c : CodePoint) : Text :=
  if c.val < 0x100 then ofString "\\x" ++ hexDigits 2 c.val
  else if c.val < 0x10000 then ofString "\\u" ++ hexDigits 4 c.val
  else ofString "\\U" ++ hexDigits 8 c.val

/-- How one code point is written between quotes of the kind `mark`. -/
def quotedChar (printable : CodePoint → Bool) (mark c : CodePoint) : Text :=
  if c = mark || c = '\\' then ['\\', c]
  else if c = '\n' then "\\n"
  else if c = '\r' then "\\r"
  else if c = '\t' then "\\t"
  else if c.val < 0x20 || c.val = 0x7F then numericEscape c
  else if c.val < 0x7F || printable c then [c]
  else numericEscape c

/-- The quote that a text is written with: double only to spare its apostrophes an escape. -/
def quoteMark (t : Text) : CodePoint := if 0x27 ∈ t ∧ 0x22 ∉ t then 0x22 else 0x27

/-- A text between quotes, escaping what is not `printable`. -/
def quoteWith (t : Text) (printable : CodePoint → Bool) : Text :=
  quoteMark t :: t.flatMap (quotedChar printable (quoteMark t)) ++ [quoteMark t]

/-- A text between quotes. -/
def quote (t : Text) : Text := t.quoteWith CodePoint.isPrintable

end Text

end TokenConformance
