import TokenConformance.Text.CodePoint

/-!
# Surrogate pairs — joining two halves into one code point

`joinPairs` walks a text from left to right and joins every high surrogate with a low one directly
behind it.  All other code points stay, lone surrogates too.
-/

namespace TokenConformance

/-- The code point beyond U+FFFF that a high and a low surrogate stand for. -/
def CodePoint.joinPair (high low : CodePoint) : CodePoint :=
  .ofNat (0x10000 + (high.val - 0xD800) * 0x400 + (low.val - 0xDC00))

/-- Joins the surrogate pairs of a text, from left to right. -/
def Text.joinPairs : Text → Text
  | [] => []
  | [c] => [c]
  | c :: d :: rest =>
    if c.isHighSurrogate && d.isLowSurrogate then c.joinPair d :: joinPairs rest
    else c :: joinPairs (d :: rest)

end TokenConformance
