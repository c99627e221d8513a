import TokenConformance.Text.Digit

/-!
# Numeric character references — the character of a number

Zero, surrogates and whatever lies beyond the last code point become U+FFFD.  The numbers 0x80 to
0x9F mean what an old Western code page had there.
-/

namespace TokenConformance.Reference

/-- The numbers with another meaning, and the code point that each stands for. -/
def codePageReplacements : List (Nat × CodePoint) := [
  (0x80, 0x20AC), (0x82, 0x201A), (0x83, 0x0192), (0x84, 0x201E), (0x85, 0x2026),
  (0x86, 0x2020), (0x87, 0x2021), (0x88, 0x02C6), (0x89, 0x2030), (0x8A, 0x0160),
  (0x8B, 0x2039), (0x8C, 0x0152), (0x8E, 0x017D), (0x91, 0x2018), (0x92, 0x2019),
  (0x93, 0x201C), (0x94, 0x201D), (0x95, 0x2022), (0x96, 0x2013), (0x97, 0x2014),
  (0x98, 0x02DC), (0x99, 0x2122), (0x9A, 0x0161), (0x9B, 0x203A), (0x9C, 0x0153),
  (0x9E, 0x017E), (0x9F, 0x0178)]

/-- The character that a number stands for. -/
def character (n : Nat) : CodePoint :=
  if n = 0 || 0x10FFFF < n || (0xD800 ≤ n && n ≤ 0xDFFF) then .replacement
  else (codePageReplacements.lookup n).getD (.ofNat n)

/-- Why an integer stands for no character. -/
inductive CharacterError
  /-- It is negative. -/
  | negative
  /-- It is less than every integer of 32 bits. -/
  | outOfRange
  deriving DecidableEq, Repr

/-- The character that an integer stands for; negative ones stand for none. -/
def characterOfInt (n : Int) : Except CharacterError CodePoint :=
  if 0 ≤ n then .ok (character n.toNat)
  else if -0x80000000 ≤ n then .error .negative
  else .error .outOfRange

/-- The two ways to write a number. -/
inductive Radix
  | decimal
  | hexadecimal
  deriving DecidableEq

/-- The digits of a radix. -/
def Radix.isDigit : Radix → CodePoint → Bool
  | decimal => CodePoint.isDigit
  | hexadecimal => CodePoint.isHexDigit

/-- The value of a numeral; only decimal ones can be too long. -/
def Radix.value : Radix → Text → Except NumeralError Nat
  | decimal, digits => Numeral.decimal digits
  | hexadecimal, digits => .ok (Numeral.hexadecimal digits)

/-- The radix of the number behind `&#`, and the text behind the `x` that marks a hexadecimal. -/
def readRadix : Text → Radix × Text
  | [] => (.decimal, [])
  | c :: rest => if c = 'x' || c = 'X' then (.hexadecimal, rest) else (.decimal, c :: rest)

/-- The text without a semicolon at its start. -/
def dropSemicolon : Text → Text
  | [] => []
  | c :: rest => if c = ';' then rest else c :: rest

/-- The character of the numeric reference whose text behind `&#` is given, and what follows it;
`none` where no digit follows.  The closing semicolon may be missing. -/
def numeric? (t : Text) : Except NumeralError (Option (CodePoint × Text)) :=
  let (radix, body) := readRadix t
  let digits := body.takeWhile radix.isDigit
  if digits.isEmpty then .ok none
  else (radix.value digits).map fun n =>
    some (character n, dropSemicolon (body.dropWhile radix.isDigit))

theorem suffix_readRadix (t : Text) : (readRadix t).2 <:+ t := by
  cases t with
  | nil => exact List.suffix_refl _
  | cons c rest =>
    rw [readRadix]
    split
    · exact List.suffix_cons c rest
    · exact List.suffix_refl _

theorem suffix_dropSemicolon (t : Text) : dropSemicolon t <:+ t := by
  cases t with
  | nil => exact List.suffix_refl _
  | cons c rest =>
    rw [dropSemicolon]
    split
    · exact List.suffix_cons c rest
    · exact List.suffix_refl _

/-- What follows a numeric reference is an end of the text it was found in. -/
theorem suffix_of_numeric? {t rest : Text} {c : CodePoint}
    (h : numeric? t = .ok (some (c, rest))) : rest <:+ t := by
  simp only [numeric?] at h
  split at h
  · cases h
  · cases hv : (readRadix t).1.value ((readRadix t).2.takeWhile (readRadix t).1.isDigit) with
    | error e => rw [hv] at h; cases h
    | ok n =>
      rw [hv] at h
      cases h
      exact (suffix_dropSemicolon _).trans ((List.dropWhile_suffix _).trans (suffix_readRadix t))

end TokenConformance.Reference
