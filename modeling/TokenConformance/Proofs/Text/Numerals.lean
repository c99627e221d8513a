import Mathlib.Data.Nat.Digits.Defs
import TokenConformance.Text.Digit

/-!
# Numerals — runs of ASCII digits and their values

ASCII digits are decimal digits (`CodePoint.decimalValue?_of_isDigit`), so that a run of them is read
unless it is too long (`Numeral.decimal_of_isDigit`).  What is read is the number that the digits have
in base ten (`Numeral.ofDigits_eq`).
-/

namespace TokenConformance

theorem CodePoint.decimalValue?_of_isDigit {c : CodePoint} (h : c.isDigit = true) :
    c.decimalValue? = some (c.val - 0x30) := by
  simp only [isDigit, Bool.and_eq_true, decide_eq_true_eq] at h
  have hfirst : (Text.decimalZeros.find? fun first => first ≤ c.val && c.val ≤ first + 9) =
      some 0x30 := by
    refine List.find?_eq_some_iff_append.2 ⟨?_, [], Text.decimalZeros.tail, rfl, by simp⟩
    rw [Bool.and_eq_true, decide_eq_true_eq, decide_eq_true_eq]
    omega
  rw [decimalValue?, hfirst]
  rfl

theorem CodePoint.isDigitLike_of_isDigit {c : CodePoint} (h : c.isDigit = true) :
    c.isDigitLike = true := by
  rw [isDigitLike, decimalValue?_of_isDigit h]
  rfl

theorem Numeral.decimal_of_isDigit {digits : Text} (h : ∀ c ∈ digits, c.isDigit = true) :
    decimal digits = if maxDigits < digits.length then .error .tooLong
      else .ok (ofDigits 10 (digits.map fun c => c.val - 0x30)) := by
  have hvalues : ∀ {l : Text}, (∀ c ∈ l, c.isDigit = true) →
      l.mapM CodePoint.decimalValue? = some (l.map fun c => c.val - 0x30) := by
    intro l hl
    induction l with
    | nil => rfl
    | cons c l ih =>
      rw [List.mapM_cons, CodePoint.decimalValue?_of_isDigit (hl c (by simp)),
        ih fun d hd => hl d (by simp [hd])]
      rfl
  rw [decimal, hvalues h]
  simp only [List.length_map]

/-- Digits that stand with the highest first have the value of the same digits the other way round. -/
theorem Numeral.ofDigits_eq (base : Nat) (digits : List Nat) :
    ofDigits base digits = Nat.ofDigits base digits.reverse := by
  rw [Nat.ofDigits_eq_foldr, List.foldr_reverse, ofDigits]
  congr 1
  funext n d
  rw [Nat.cast_id, Nat.add_comm, Nat.mul_comm]

end TokenConformance
