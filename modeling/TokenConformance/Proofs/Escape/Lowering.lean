import TokenConformance.Proofs.Escape.Occurrences
import TokenConformance.Proofs.Token.Grammar

/-!
# Lowering and escapes — a capital letter behind a backslash becomes an escape

Lowering leaves hexadecimal digits what they are (`startsHex_asciiLower`) and makes no backslash, but it
makes `u` of `U`.  So a lowered name has a malformed escape exactly if in the name four digits are
wanting behind a backslash and either letter (`lacksDigits_asciiLower_iff`).
-/

namespace TokenConformance

/-! ## Definitions -/

section Defs

/-- The text begins with four hexadecimal digits. -/
def Text.StartsHex (t : Text) : Prop := 4 ≤ t.length ∧ (t.take 4).all CodePoint.isHexDigit = true

instance (t : Text) : Decidable t.StartsHex := inferInstanceAs (Decidable (_ ∧ _))

/-- Somewhere in the text are a backslash and the letter without four hexadecimal digits behind them. -/
def Text.LacksDigits (letter : CodePoint) (t : Text) : Prop :=
  ∃ i < t.length, [CodePoint.ofChar '\\', letter] <+: t.drop i ∧ ¬ Text.StartsHex (t.drop (i + 2))

instance (letter : CodePoint) (t : Text) : Decidable (t.LacksDigits letter) :=
  inferInstanceAs (Decidable (∃ i < t.length, _ ∧ ¬ _))

end Defs

/-! ## Code points -/

section CodePoints

variable {c : CodePoint}

theorem CodePoint.asciiLower_eq_backslash_iff :
    c.asciiLower = CodePoint.ofChar '\\' ↔ c = CodePoint.ofChar '\\' := by
  have hlower := c.val_asciiLower
  have hbackslash : (CodePoint.ofChar '\\').val = 0x5C := rfl
  rw [Fin.ext_iff, Fin.ext_iff, hbackslash]
  split at hlower <;> omega

theorem CodePoint.asciiLower_eq_u_iff :
    c.asciiLower = CodePoint.ofChar 'u' ↔ c = CodePoint.ofChar 'u' ∨ c = CodePoint.ofChar 'U' := by
  have hlower := c.val_asciiLower
  have hsmall : (CodePoint.ofChar 'u').val = 0x75 := rfl
  have hcapital : (CodePoint.ofChar 'U').val = 0x55 := rfl
  rw [Fin.ext_iff, Fin.ext_iff, Fin.ext_iff, hsmall, hcapital]
  split at hlower <;> omega

theorem CodePoint.isHexDigit_iff : c.isHexDigit = true ↔
    0x30 ≤ c.val ∧ c.val ≤ 0x39 ∨ 0x41 ≤ c.val ∧ c.val ≤ 0x46 ∨ 0x61 ≤ c.val ∧ c.val ≤ 0x66 := by
  simp only [isHexDigit, hexValue?, isDigit, Bool.and_eq_true, decide_eq_true_eq]
  split
  · simp_all
  · split
    · simp_all
    · split <;> simp_all

/-- Lowering makes hexadecimal digits of hexadecimal digits only. -/
theorem CodePoint.isHexDigit_asciiLower : c.asciiLower.isHexDigit = c.isHexDigit := by
  have hlower := c.val_asciiLower
  rw [Bool.eq_iff_iff, isHexDigit_iff, isHexDigit_iff]
  split at hlower <;> omega

end CodePoints

/-! ## Texts -/

section Texts

variable {t : Text}

theorem Text.startsHex_asciiLower : t.asciiLower.StartsHex ↔ t.StartsHex := by
  have hdigits : CodePoint.isHexDigit ∘ CodePoint.asciiLower = CodePoint.isHexDigit :=
    funext fun c => c.isHexDigit_asciiLower
  rw [StartsHex, StartsHex, asciiLower, List.length_map, ← List.map_take, List.all_map, hdigits]

/-- A backslash and `u` in a lowered text were a backslash and `u` or `U`. -/
theorem Text.prefix_asciiLower_iff :
    [CodePoint.ofChar '\\', CodePoint.ofChar 'u'] <+: t.asciiLower ↔
      [CodePoint.ofChar '\\', CodePoint.ofChar 'u'] <+: t ∨
        [CodePoint.ofChar '\\', CodePoint.ofChar 'U'] <+: t := by
  constructor
  · intro h
    obtain ⟨raw, hraw, hpair⟩ := List.prefix_map_iff.1 h
    obtain ⟨c, rest, rfl, hc, hrest⟩ := List.map_eq_cons_iff.1 hpair.symm
    obtain ⟨d, rest, rfl, hd, hnil⟩ := List.map_eq_cons_iff.1 hrest
    obtain rfl := List.map_eq_nil_iff.1 hnil
    rw [CodePoint.asciiLower_eq_backslash_iff] at hc
    subst hc
    rcases CodePoint.asciiLower_eq_u_iff.1 hd with rfl | rfl
    · exact .inl hraw
    · exact .inr hraw
  · rintro (h | h)
    · exact h.map CodePoint.asciiLower
    · exact h.map CodePoint.asciiLower

/-- **What lowering does to malformed escapes**: it keeps them, and makes others of capital letters. -/
theorem Text.lacksDigits_asciiLower_iff :
    t.asciiLower.LacksDigits (.ofChar 'u') ↔
      t.LacksDigits (.ofChar 'u') ∨ t.LacksDigits (.ofChar 'U') := by
  have hdrop : ∀ i, List.drop i t.asciiLower = Text.asciiLower (t.drop i) := fun i => List.map_drop.symm
  unfold LacksDigits
  rw [← exists_or]
  refine exists_congr fun i => ?_
  rw [← and_or_left, ← or_and_right, hdrop, hdrop, prefix_asciiLower_iff, startsHex_asciiLower]
  rw [asciiLower, List.length_map]

end Texts

/-! ## Escapes -/

namespace Escape

section LackingDigits

variable {t rest : Text} {i : ℕ}

theorem isSome_hex4? {a b c d : CodePoint} :
    (CodePoint.hex4? a b c d).isSome = [a, b, c, d].all CodePoint.isHexDigit := by
  simp only [CodePoint.hex4?, CodePoint.isHexDigit, List.all_cons, List.all_nil, Bool.and_true]
  cases a.hexValue? <;> cases b.hexValue? <;> cases c.hexValue? <;> cases d.hexValue? <;> rfl

theorem escapeAt?_eq_none_iff : escapeAt? (Text.ofString "\\u" ++ rest) = none ↔ ¬ rest.StartsHex := by
  rcases rest with - | ⟨a, - | ⟨b, - | ⟨c, - | ⟨d, rest⟩⟩⟩⟩
  · exact ⟨fun _ h => absurd h.1 (by simp), fun _ => rfl⟩
  · exact ⟨fun _ h => absurd h.1 (by simp), fun _ => rfl⟩
  · exact ⟨fun _ h => absurd h.1 (by simp), fun _ => rfl⟩
  · exact ⟨fun _ h => absurd h.1 (by simp), fun _ => rfl⟩
  · have hread : escapeAt? (Text.ofString "\\u" ++ a :: b :: c :: d :: rest) =
        (CodePoint.hex4? a b c d).map .ofNat := rfl
    have hstarts : Text.StartsHex (a :: b :: c :: d :: rest) ↔
        (CodePoint.hex4? a b c d).isSome = true := by
      rw [isSome_hex4?]
      exact and_iff_right (by simp)
    rw [hread, hstarts, Option.map_eq_none_iff, Option.not_isSome_iff_eq_none]

theorem malformed_iff : Malformed t i ↔ OccursAt t i ∧ ¬ Text.StartsHex (t.drop (i + 2)) := by
  refine and_congr_right ?_
  rintro ⟨rest, hrest⟩
  have hbehind : List.drop (i + 2) t = rest := by
    rw [← List.drop_drop, ← hrest]
    rfl
  rw [← hrest, escapeAt?_eq_none_iff, hbehind]

/-- The malformed escapes of a text are those that lack digits. -/
theorem exists_malformed_iff : (∃ i, Malformed t i) ↔ t.LacksDigits (.ofChar 'u') := by
  refine exists_congr fun i => malformed_iff.trans (iff_and_self.2 ?_)
  rintro ⟨⟨rest, hrest⟩, -⟩
  by_contra hle
  rw [List.drop_eq_nil_of_le (Nat.le_of_not_lt hle)] at hrest
  cases hrest

theorem unescape_fails_iff : (∃ e, unescape t = .error e) ↔ t.LacksDigits (.ofChar 'u') := by
  rw [← exists_malformed_iff]
  constructor
  · rintro ⟨e, he⟩
    exact ⟨e.index, (unescape_eq_error_iff.1 he).2.1⟩
  · rintro ⟨i, hi⟩
    obtain ⟨k, hk, hfirst⟩ := exists_firstMalformed hi
    exact ⟨⟨t, k⟩, unescape_of_firstMalformed hk hfirst⟩

end LackingDigits

end Escape

end TokenConformance
