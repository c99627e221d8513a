/-!
# Code points and text

A `Text` is a list of Unicode code points, surrogates included: test files may hold lone
surrogates, which no `Char` can carry.  Literals are written as `Char` and `String` and coerced.
-/

namespace TokenConformance

/-- A Unicode code point, surrogate or not. -/
abbrev CodePoint := Fin 0x110000

/-- There is a code point, so numerals may stand for code points. -/
-- the zero is spelled out because it is the one that numerals of `Fin` ask for
instance neZeroCodePoints : @NeZero Nat Zero.ofOfNat0 0x110000 := ⟨by decide⟩

/-- A sequence of code points.  Two surrogates side by side stay two code points. -/
abbrev Text := List CodePoint

namespace CodePoint

/-- The code point of a character. -/
def ofChar (c : Char) : CodePoint :=
  ⟨c.toNat, by
    have h : c.val.toNat < 0xD800 ∨ (0xDFFF < c.val.toNat ∧ c.val.toNat < 0x110000) := c.valid
    have e : c.toNat = c.val.toNat := rfl
    omega⟩

instance : Coe Char CodePoint := ⟨ofChar⟩

/-- The character that stands in for what cannot be decoded. -/
def replacement : CodePoint := 0xFFFD

/-- The digits `0` to `9`. -/
def isDigit (c : CodePoint) : Bool := 0x30 ≤ c.val && c.val ≤ 0x39

/-- The letters `A` to `Z`. -/
def isUpper (c : CodePoint) : Bool := 0x41 ≤ c.val && c.val ≤ 0x5A

/-- The letters `a` to `z`. -/
def isLower (c : CodePoint) : Bool := 0x61 ≤ c.val && c.val ≤ 0x7A

/-- ASCII letters and digits. -/
def isAlphanumeric (c : CodePoint) : Bool := c.isDigit || c.isUpper || c.isLower

/-- The first halves of surrogate pairs. -/
def isHighSurrogate (c : CodePoint) : Bool := 0xD800 ≤ c.val && c.val ≤ 0xDBFF

/-- The second halves of surrogate pairs. -/
def isLowSurrogate (c : CodePoint) : Bool := 0xDC00 ≤ c.val && c.val ≤ 0xDFFF

/-- All surrogates. -/
def isSurrogate (c : CodePoint) : Bool := 0xD800 ≤ c.val && c.val ≤ 0xDFFF

/-- The value of a hexadecimal digit of either case, and `none` for any other code point. -/
def hexValue? (c : CodePoint) : Option Nat :=
  if c.isDigit then some (c.val - 0x30)
  else if 0x41 ≤ c.val && c.val ≤ 0x46 then some (c.val - 0x37)
  else if 0x61 ≤ c.val && c.val ≤ 0x66 then some (c.val - 0x57)
  else none

/-- Hexadecimal digits of either case. -/
def isHexDigit (c : CodePoint) : Bool := c.hexValue?.isSome

/-- The number that four hexadecimal digits write. -/
def hex4? (a b c d : CodePoint) : Option Nat := do
  return (((← a.hexValue?) * 16 + (← b.hexValue?)) * 16 + (← c.hexValue?)) * 16 + (← d.hexValue?)

/-- The code point with number `n`, or the replacement character beyond the last one. -/
def ofNat (n : Nat) : CodePoint := if h : n < 0x110000 then ⟨n, h⟩ else replacement

/-- The character, unless the code point is a surrogate. -/
def toChar? (c : CodePoint) : Option Char :=
  if c.isSurrogate then none else some (Char.ofNat c.val)

end CodePoint

namespace Text

/-- The code points of a string. -/
def ofString (s : String) : Text := s.toList.map CodePoint.ofChar

instance : Coe String Text := ⟨ofString⟩

/-- The string with the same code points, unless the text holds a surrogate. -/
def toString? (t : Text) : Option String := (t.mapM CodePoint.toChar?).map String.ofList

/-- The decimal numeral of a natural number. -/
def ofNat (n : Nat) : Text := ofString (toString n)

/-- The decimal numeral of an integer, with a minus sign below zero. -/
def ofInt : Int → Text
  | .ofNat n => ofNat n
  | .negSucc n => CodePoint.ofChar '-' :: ofNat (n + 1)

/-- Whether `needle` occurs somewhere in the text.  The empty text occurs everywhere. -/
def occursIn (needle : Text) : Text → Bool
  | [] => needle.isEmpty
  | c :: rest => needle.isPrefixOf (c :: rest) || occursIn needle rest

/-- Whether the text closes with `ending`. -/
def endsWith (t ending : Text) : Bool := ending.isSuffixOf t

/-- Whether the text opens with `beginning`. -/
def startsWith (t beginning : Text) : Bool := beginning.isPrefixOf t

/-- The pieces between the occurrences of `sep`; one more than there are occurrences. -/
def splitOn (sep : CodePoint) : Text → List Text
  | [] => [[]]
  | c :: rest =>
    match splitOn sep rest with
    | [] => [[c]]
    | piece :: pieces => if c = sep then [] :: piece :: pieces else (c :: piece) :: pieces

/-- What stands before and after the first `sep`, or `none` where there is no `sep`. -/
def splitAtFirst? (sep : CodePoint) : Text → Option (Text × Text)
  | [] => none
  | c :: rest =>
    if c = sep then some ([], rest)
    else (splitAtFirst? sep rest).map fun (before, after) => (c :: before, after)

/-- The texts one after another, with `sep` between neighbours. -/
def join (sep : Text) : List Text → Text
  | [] => []
  | [t] => t
  | t :: ts => t ++ sep ++ join sep ts

/-- One line of output. -/
def line (t : Text) : Text := t ++ [CodePoint.ofChar '\n']

/-- Lexicographic order by code point, a proper prefix before its extensions. -/
def compare : Text → Text → Ordering
  | [], [] => .eq
  | [], _ :: _ => .lt
  | _ :: _, [] => .gt
  | a :: s, b :: t => (Ord.compare a.val b.val).then (compare s t)

end Text

end TokenConformance
