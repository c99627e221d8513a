import TokenConformance.Number.Binary64

/-!
# Quotients — where the floating point range is not left

A quotient up to 128 has an exponent below zero (`exponentOf_lt`), so it is far from the largest floating
point number and can be rounded to an integer (`exists_round?_ofQuotient`).
-/

namespace TokenConformance.Binary64

variable {num den : Nat}

theorem log2_le_add (h : num ≤ 128 * den) : num.log2 ≤ den.log2 + 7 := by
  by_cases hnum : num = 0
  · rw [hnum]
    exact Nat.zero_le _
  · have hlt : num < 2 ^ (den.log2 + 8) := by
      calc num ≤ 2 ^ 7 * den := h
        _ < 2 ^ 7 * 2 ^ (den.log2 + 1) := by
          exact Nat.mul_lt_mul_of_pos_left Nat.lt_log2_self (Nat.two_pow_pos 7)
        _ = 2 ^ (den.log2 + 8) := by
          rw [← Nat.pow_add, Nat.add_comm 7]
    exact Nat.le_of_lt_succ ((Nat.log2_lt hnum).2 hlt)

theorem exponentOf_lt (h : num ≤ 128 * den) : exponentOf num den < 0 := by
  have hlog := log2_le_add h
  unfold exponentOf
  dsimp only
  split <;> omega

/-- **A quotient up to 128 can be rounded to an integer.** -/
theorem exists_round?_ofQuotient {num den : Int} (h : num.natAbs ≤ 128 * den.natAbs) :
    ∃ n, (ofQuotient num den).round? = some n := by
  have hfinite : ∀ negative, ∃ significand exponent,
      ofRatio negative num.natAbs den.natAbs = .finite negative significand exponent := by
    intro negative
    have hexponent := exponentOf_lt h
    unfold ofRatio
    split
    · exact ⟨_, _, rfl⟩
    · dsimp only
      split
      · exact ⟨_, _, if_neg (by dsimp only; omega)⟩
      · exact ⟨_, _, if_neg (by dsimp only; omega)⟩
  obtain ⟨significand, exponent, heq⟩ := hfinite (decide (num < 0) != decide (den < 0))
  rw [ofQuotient, heq]
  exact ⟨_, rfl⟩

end TokenConformance.Binary64
