import TokenConformance.Text.CodePoint
import TokenConformance.Text.DigitTable

/-!
# Digits and numerals — reading numbers in any script

A numeral is a run of decimal digits, of one script or several.  Numerals of more than
`Numeral.maxDigits` digits are neither read, leading zeros counted, nor written; hexadecimal ones
have no limit.
-/

namespace TokenConformance

namespace CodePoint

/-- The value of a decimal digit of any script. -/
def decimalValue? (c : CodePoint) : Option Nat :=
  (Text.decimalZeros.find? fun first => first ≤ c.val && c.val ≤ first + 9).map (c.val - ·)

/-- Digits of any script, those without a place value included. -/
def isDigitLike (c : CodePoint) : Bool :=
  c.decimalValue?.isSome ||
    Text.otherDigitRanges.any fun (first, last) => first ≤ c.val && c.val ≤ last

end CodePoint

/-- Why a numeral has no value. -/
inductive NumeralError
  /-- It has more digits than `Numeral.maxDigits`. -/
  | tooLong
  /-- One of its digits has no place value. -/
  | notDecimal
  deriving DecidableEq, Repr

namespace Numeral

/-- The longest decimal numeral that is read or written. -/
def maxDigits : Nat := 4300

/-- Whether a number is small enough for its decimal numeral to be written. -/
def isWritable (n : Int) : Bool := n.natAbs < Nat.pow 10 maxDigits

/-- The number with the given digit values, the highest first. -/
def ofDigits (base : Nat) (digits : List Nat) : Nat := digits.foldl (fun n d => n * base + d) 0

/-- The value of a decimal numeral. -/
def decimal (t : Text) : Except NumeralError Nat :=
  match t.mapM CodePoint.decimalValue? with
  | none => .error .notDecimal
  | some digits => if maxDigits < digits.length then .error .tooLong else .ok (ofDigits 10 digits)

/-- The value of a hexadecimal numeral; what is no hexadecimal digit counts as zero. -/
def hexadecimal (t : Text) : Nat := ofDigits 16 (t.map fun c => c.hexValue?.getD 0)

end Numeral

end TokenConformance
