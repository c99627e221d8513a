import Mathlib.Data.List.Chain
import TokenConformance.Escape
import TokenConformance.Text.Case

/-!
# Writing escapes — texts as a double-escaped test holds them

A text is written by its UTF-16 code units, each as a backslash, `u` and four hexadecimal digits of
either case (`Text.WrittenAs`).  Reading gives the units back (`WritesUnits.resolve`), and joining
the units gives the text, unless two surrogates side by side join that did not before
(`Text.SurrogatesApart`, `unescape_of_writtenAs`).  Lowering what is written changes digits and
nothing that they stand for (`WritesUnits.asciiLower`).
-/

namespace TokenConformance

/-! ## Definitions -/

section Defs

/-- The UTF-16 code units of a code point; a lone surrogate is a unit itself. -/
def CodePoint.utf16 (c : CodePoint) : List ℕ :=
  if c.val < 0x10000 then [c.val]
  else [0xD800 + (c.val - 0x10000) / 0x400, 0xDC00 + (c.val - 0x10000) % 0x400]

def Text.utf16 (t : Text) : List ℕ := t.flatMap CodePoint.utf16

/-- `c` is the hexadecimal digit for `n`, small or capital. -/
def Escape.WritesDigit (n : ℕ) (c : CodePoint) : Prop :=
  (Text.ofString "0123456789abcdef")[n]? = some c ∨
    (Text.ofString "0123456789ABCDEF")[n]? = some c

/-- Code units as escapes, one after another. -/
inductive Escape.WritesUnits : List ℕ → Text → Prop
  | nil : WritesUnits [] []
  | cons {n : ℕ} {units : List ℕ} {a b c d : CodePoint} {e : Text}
      (ha : WritesDigit (n / 0x1000) a) (hb : WritesDigit (n / 0x100 % 0x10) b)
      (hc : WritesDigit (n / 0x10 % 0x10) c) (hd : WritesDigit (n % 0x10) d)
      (h : WritesUnits units e) :
      WritesUnits (n :: units)
        (CodePoint.ofChar '\\' :: CodePoint.ofChar 'u' :: a :: b :: c :: d :: e)

/-- The text is written as escapes for its code units. -/
def Text.WrittenAs (t e : Text) : Prop := Escape.WritesUnits t.utf16 e

/-- No high surrogate stands directly in front of a low one. -/
def Text.SurrogatesApart (t : Text) : Prop :=
  t.IsChain fun c d => ¬ (c.isHighSurrogate = true ∧ d.isLowSurrogate = true)

instance Text.decidableSurrogatesApart (t : Text) : Decidable t.SurrogatesApart :=
  inferInstanceAs (Decidable (List.IsChain _ _))

instance Escape.decidableWritesDigit (n : ℕ) (c : CodePoint) : Decidable (WritesDigit n c) :=
  inferInstanceAs (Decidable (_ ∨ _))

/-- Escapes for the units are read off six code points at a time. -/
instance Escape.decidableWritesUnits : ∀ (units : List ℕ) (e : Text),
    Decidable (WritesUnits units e)
  | [], [] => isTrue .nil
  | n :: units, x :: y :: a :: b :: c :: d :: e =>
    match decidableWritesUnits units e with
    | isFalse h => isFalse fun hw => by cases hw; exact h ‹_›
    | isTrue h =>
      decidable_of_iff ((x = CodePoint.ofChar '\\' ∧ y = CodePoint.ofChar 'u') ∧
        WritesDigit (n / 0x1000) a ∧ WritesDigit (n / 0x100 % 0x10) b ∧
        WritesDigit (n / 0x10 % 0x10) c ∧ WritesDigit (n % 0x10) d) (by
          constructor
          · rintro ⟨⟨rfl, rfl⟩, ha, hb, hc, hd⟩
            exact .cons ha hb hc hd h
          · intro hw
            cases hw with
            | cons ha hb hc hd _ => exact ⟨⟨rfl, rfl⟩, ha, hb, hc, hd⟩)
  | [], _ :: _ => isFalse nofun
  | _ :: _, [] | _ :: _, [_] | _ :: _, [_, _] | _ :: _, [_, _, _] | _ :: _, [_, _, _, _]
  | _ :: _, [_, _, _, _, _] => isFalse nofun

instance Text.decidableWrittenAs (t e : Text) : Decidable (t.WrittenAs e) :=
  inferInstanceAs (Decidable (Escape.WritesUnits _ _))

end Defs

namespace Escape

/-! ## Digits -/

section Digits

variable {n : ℕ} {c : CodePoint}

theorem WritesDigit.lt (h : WritesDigit n c) : n < 0x10 := by
  rcases h with h | h <;> exact (List.getElem?_eq_some_iff.1 h).1

theorem WritesDigit.hexValue? (h : WritesDigit n c) : c.hexValue? = some n := by
  have hn := h.lt
  have hrange : ((List.range 0x10).map some)[n]? = some (some n) := by simp [hn]
  have hsmall : (Text.ofString "0123456789abcdef").map CodePoint.hexValue? =
      (List.range 0x10).map some := by decide
  have hcapital : (Text.ofString "0123456789ABCDEF").map CodePoint.hexValue? =
      (List.range 0x10).map some := by decide
  rcases h with h | h
  · rw [← hsmall, List.getElem?_map, h] at hrange
    exact Option.some.inj hrange
  · rw [← hcapital, List.getElem?_map, h] at hrange
    exact Option.some.inj hrange

/-- Lowering a digit leaves it a digit for the same number. -/
theorem WritesDigit.asciiLower (h : WritesDigit n c) : WritesDigit n c.asciiLower := by
  have hsmall : (Text.ofString "0123456789abcdef").map CodePoint.asciiLower =
      Text.ofString "0123456789abcdef" := by decide +kernel
  have hcapital : (Text.ofString "0123456789ABCDEF").map CodePoint.asciiLower =
      Text.ofString "0123456789abcdef" := by decide +kernel
  refine Or.inl ?_
  rcases h with h | h
  · rw [← hsmall, List.getElem?_map, h]
    rfl
  · rw [← hcapital, List.getElem?_map, h]
    rfl

end Digits

/-! ## Units -/

section Units

variable {units : List ℕ} {e : Text}

theorem hex4?_of_writesDigit {n : ℕ} {a b c d : CodePoint} (ha : WritesDigit (n / 0x1000) a)
    (hb : WritesDigit (n / 0x100 % 0x10) b) (hc : WritesDigit (n / 0x10 % 0x10) c)
    (hd : WritesDigit (n % 0x10) d) : CodePoint.hex4? a b c d = some n := by
  have hn : ((n / 0x1000 * 16 + n / 0x100 % 0x10) * 16 + n / 0x10 % 0x10) * 16 + n % 0x10 = n := by
    omega
  simp only [CodePoint.hex4?, ha.hexValue?, hb.hexValue?, hc.hexValue?, hd.hexValue?]
  exact congrArg some hn

/-- Resolving gives the units that were written. -/
theorem WritesUnits.resolve (h : WritesUnits units e) :
    ∀ index, Escape.resolve index e = .ok (units.map CodePoint.ofNat) := by
  induction h with
  | nil => exact fun _ => rfl
  | cons ha hb hc hd h ih =>
    intro index
    rw [Escape.resolve, if_pos (by simp), hex4?_of_writesDigit ha hb hc hd, ih]
    rfl

/-- Lowering what is written writes the same units. -/
theorem WritesUnits.asciiLower (h : WritesUnits units e) : WritesUnits units e.asciiLower := by
  induction h with
  | nil => exact .nil
  | cons ha hb hc hd _ ih =>
    exact .cons ha.asciiLower hb.asciiLower hc.asciiLower hd.asciiLower ih

end Units

/-! ## Pairs -/

section Pairs

theorem joinPairs_cons_of_apart {c : CodePoint} {t : Text}
    (h : ∀ d ∈ t.head?, ¬ (c.isHighSurrogate = true ∧ d.isLowSurrogate = true)) :
    Text.joinPairs (c :: t) = c :: t.joinPairs := by
  cases t with
  | nil => rfl
  | cons d t =>
    have hcd := h d rfl
    rw [← Bool.and_eq_true] at hcd
    rw [Text.joinPairs, if_neg hcd]

theorem ofNat_val (c : CodePoint) : CodePoint.ofNat c.val = c := dif_pos c.isLt

theorem units_of_lt {c : CodePoint} (h : c.val < 0x10000) :
    c.utf16.map CodePoint.ofNat = [c] := by
  rw [CodePoint.utf16, if_pos h, List.map_singleton, ofNat_val]

/-- A code point beyond U+FFFF has a surrogate pair for its units, which joins to it. -/
theorem units_of_le {c : CodePoint} (h : ¬ c.val < 0x10000) :
    ∃ high low : CodePoint, c.utf16.map CodePoint.ofNat = [high, low] ∧
      high.isHighSurrogate = true ∧ low.isLowSurrogate = true ∧ high.joinPair low = c := by
  have hc := c.isLt
  have hhigh : 0xD800 + (c.val - 0x10000) / 0x400 < 0x110000 := by omega
  have hlow : 0xDC00 + (c.val - 0x10000) % 0x400 < 0x110000 := by omega
  refine ⟨⟨_, hhigh⟩, ⟨_, hlow⟩, ?_, ?_, ?_, ?_⟩
  · rw [CodePoint.utf16, if_neg h, List.map_cons, List.map_singleton, ← ofNat_val ⟨_, hhigh⟩,
      ← ofNat_val ⟨_, hlow⟩]
  · simp only [CodePoint.isHighSurrogate, Bool.and_eq_true, decide_eq_true_eq]
    omega
  · simp only [CodePoint.isLowSurrogate, Bool.and_eq_true, decide_eq_true_eq]
    omega
  · have hjoin : 0x10000 + (0xD800 + (c.val - 0x10000) / 0x400 - 0xD800) * 0x400 +
        (0xDC00 + (c.val - 0x10000) % 0x400 - 0xDC00) = c.val := by omega
    rw [CodePoint.joinPair, hjoin, ofNat_val]

/-- A low surrogate that is the first unit of a text is its first code point. -/
theorem mem_head?_of_isLowSurrogate {t : Text} {d : CodePoint}
    (hd : d ∈ (t.utf16.map CodePoint.ofNat).head?) (hlow : d.isLowSurrogate = true) :
    d ∈ t.head? := by
  cases t with
  | nil => exact hd
  | cons c t =>
    rw [Text.utf16, List.flatMap_cons, List.map_append] at hd
    by_cases hc : c.val < 0x10000
    · rw [units_of_lt hc] at hd
      exact hd
    · obtain ⟨high, low, hunits, hhigh, -, -⟩ := units_of_le hc
      rw [hunits] at hd
      cases hd
      -- the first unit of a pair is a high surrogate
      simp only [CodePoint.isHighSurrogate, CodePoint.isLowSurrogate, Bool.and_eq_true,
        decide_eq_true_eq] at hhigh hlow
      omega

/-- **Joining undoes the cutting into units** where no two surrogates join that were apart. -/
theorem joinPairs_utf16 : ∀ {t : Text}, t.SurrogatesApart →
    Text.joinPairs (t.utf16.map CodePoint.ofNat) = t
  | [], _ => rfl
  | c :: t, h => by
    have ih : Text.joinPairs ((Text.utf16 t).map CodePoint.ofNat) = t := joinPairs_utf16 h.tail
    rw [Text.utf16, List.flatMap_cons, List.map_append, ← Text.utf16]
    by_cases hc : c.val < 0x10000
    · have hapart : ∀ d ∈ ((Text.utf16 t).map CodePoint.ofNat).head?,
          ¬ (c.isHighSurrogate = true ∧ d.isLowSurrogate = true) := by
        intro d hd hcd
        exact (List.isChain_cons.1 h).1 d (mem_head?_of_isLowSurrogate hd hcd.2) hcd
      rw [units_of_lt hc, List.singleton_append, joinPairs_cons_of_apart hapart, ih]
    · obtain ⟨high, low, hunits, hhigh, hlow, hjoin⟩ := units_of_le hc
      rw [hunits, List.cons_append, List.singleton_append, Text.joinPairs, if_pos (by simp [*]),
        hjoin, ih]

end Pairs

/-! ## Texts -/

section Texts

variable {t e : Text}

theorem occursIn_of_cons {units : List ℕ} (h : WritesUnits units e) (hne : e ≠ []) :
    occursIn e = true := by
  cases h with
  | nil => exact absurd rfl hne
  | cons ha hb hc hd h =>
    rw [occursIn, Text.occursIn]
    simp [Text.ofString]

/-- **What is written as escapes is read back**, lone surrogates and backslashes included. -/
theorem unescape_of_writtenAs (h : t.WrittenAs e) (hapart : t.SurrogatesApart) :
    unescape e = .ok t := by
  have hresolve : resolve 0 e = .ok (t.utf16.map CodePoint.ofNat) := WritesUnits.resolve h 0
  have hjoin := joinPairs_utf16 hapart
  unfold unescape
  by_cases hne : e = []
  · subst hne
    rw [← Except.ok.inj hresolve] at hjoin
    exact congrArg Except.ok hjoin
  · rw [if_pos (occursIn_of_cons h hne), hresolve]
    exact congrArg Except.ok hjoin

end Texts

end Escape

end TokenConformance
