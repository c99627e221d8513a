import Mathlib.Data.List.Infix
import TokenConformance.Proofs.Reference.LongestName
import TokenConformance.Proofs.Text.Numerals
import TokenConformance.Reference.Decode

/-!
# Laws of decoding — one equation for each thing that can stand at the start of a text

`decode` copies whatever is no ampersand; at an ampersand it goes on behind what `recognise` found,
and what follows a reference is always an end of the text (`suffix_of_recognise`).  The only thing
that can go wrong is a decimal number with too many digits, so behind every ampersand of a text that
is `DecimalsReadable` there is a reference or none (`exists_recognise`).
-/

namespace TokenConformance

namespace Reference

/-! ### Numbers -/

section Numbers

theorem numeric?_of_no_digits {t : Text}
    (h : (readRadix t).2.takeWhile (readRadix t).1.isDigit = []) : numeric? t = .ok none := by
  simp only [numeric?, h, List.isEmpty_nil, if_true]

theorem numeric?_of_digits {t : Text}
    (h : (readRadix t).2.takeWhile (readRadix t).1.isDigit ≠ []) :
    numeric? t = ((readRadix t).1.value ((readRadix t).2.takeWhile (readRadix t).1.isDigit)).map
      fun n => some (character n,
        dropSemicolon ((readRadix t).2.dropWhile (readRadix t).1.isDigit)) := by
  have he : ((readRadix t).2.takeWhile (readRadix t).1.isDigit).isEmpty = false := by
    simpa using h
  simp only [numeric?, he]
  rfl

end Numbers

/-! ### References -/

section References

variable {b : Bool}

theorem recognise_number (rest : Text) :
    recognise b (CodePoint.ofChar '#' :: rest) =
      (numeric? rest).map fun found => found.map fun (c, after) => ([c], after) := by
  rw [recognise, if_pos rfl]

theorem recognise_of_unnamed {c : CodePoint} (hc : c ≠ CodePoint.ofChar '#') {rest : Text}
    (h : longestNamed? (c :: rest) = none) : recognise b (c :: rest) = .ok none := by
  rw [recognise, if_neg hc, h]

theorem recognise_of_named {t after : Text} {r : Named} (h : longestNamed? t = some (r, after)) :
    recognise b t = .ok (if b && !r.isTerminated && continuesWord after then none
      else some (r.expansion, after)) := by
  obtain ⟨hr, ht, -⟩ := longestNamed?_eq_some_iff.1 h
  cases t with
  | nil => exact absurd (List.append_eq_nil_iff.1 ht.symm).1 (name_ne_nil hr)
  | cons c rest =>
    have hc : c ≠ CodePoint.ofChar '#' := by
      rintro rfl
      have := isAlphanumeric_of_startsWith hr (ht ▸ List.prefix_append _ _)
      exact absurd this (by decide)
    rw [recognise, if_neg hc, h]

/-- What is found at the beginning of a text, with what follows it changed. -/
def onRest {α : Type} (g : Text → Text) : Option (α × Text) → Option (α × Text) :=
  Option.map fun found => (found.1, g found.2)

/-- Two texts have the same number at their beginning if the same digits stand there. -/
theorem numeric?_onRest {g : Text → Text} {s t body body' : Text} {radix : Radix}
    (hs : readRadix s = (radix, body)) (ht : readRadix t = (radix, body'))
    (hdigits : body'.takeWhile radix.isDigit = body.takeWhile radix.isDigit)
    (hrest : dropSemicolon (body'.dropWhile radix.isDigit) =
      g (dropSemicolon (body.dropWhile radix.isDigit))) :
    numeric? t = (numeric? s).map (onRest g) := by
  by_cases hd : body.takeWhile radix.isDigit = []
  · have hs' : (readRadix s).2.takeWhile (readRadix s).1.isDigit = [] := by
      rw [hs]
      exact hd
    have ht' : (readRadix t).2.takeWhile (readRadix t).1.isDigit = [] := by
      rw [ht]
      exact hdigits.trans hd
    rw [numeric?_of_no_digits hs', numeric?_of_no_digits ht']
    rfl
  · have hs' : (readRadix s).2.takeWhile (readRadix s).1.isDigit ≠ [] := by
      rw [hs]
      exact hd
    have ht' : (readRadix t).2.takeWhile (readRadix t).1.isDigit ≠ [] := by
      rw [ht]
      exact fun h => hd (hdigits.symm.trans h)
    rw [numeric?_of_digits hs', numeric?_of_digits ht', hs, ht]
    dsimp only
    rw [hdigits, hrest]
    cases radix.value (body.takeWhile radix.isDigit) <;> rfl

/-- Two texts have the same name at their beginning if the same names stand there. -/
theorem longestNamed?_onRest {g : Text → Text} {s t : Text}
    (hpre : ∀ r ∈ table, r.name <+: t ↔ r.name <+: s)
    (hrest : ∀ r ∈ table, ∀ after, s = r.name ++ after → t = r.name ++ g after) :
    longestNamed? t = onRest g (longestNamed? s) := by
  cases hl : longestNamed? s with
  | none =>
    refine longestNamed?_eq_none_iff.2 fun r hr => ?_
    rw [hpre r hr]
    exact longestNamed?_eq_none_iff.1 hl r hr
  | some p =>
    obtain ⟨r, after⟩ := p
    obtain ⟨hr, hname, hmax⟩ := longestNamed?_eq_some_iff.1 hl
    have hlongest : ∀ r' ∈ table, r'.name <+: t → r'.name.length ≤ r.name.length := by
      intro r' hr' hp
      exact hmax r' hr' ((hpre r' hr').1 hp)
    exact longestNamed?_eq_some_iff.2 ⟨hr, hrest r hr after hname, hlongest⟩

/-- Two texts have the same reference at their beginning if they have the same number or the same
name there, and what follows bears on the name in the same way. -/
theorem recognise_cons_onRest {g : Text → Text} {c d : CodePoint} {s t : Text}
    (hsign : d = CodePoint.ofChar '#' ↔ c = CodePoint.ofChar '#')
    (hnumber : c = CodePoint.ofChar '#' → numeric? t = (numeric? s).map (onRest g))
    (hnamed : longestNamed? (d :: t) = onRest g (longestNamed? (c :: s)))
    (hword : ∀ r after, longestNamed? (c :: s) = some (r, after) →
      (b && !r.isTerminated && continuesWord (g after)) =
        (b && !r.isTerminated && continuesWord after)) :
    recognise b (d :: t) = (recognise b (c :: s)).map (onRest g) := by
  by_cases hc : c = CodePoint.ofChar '#'
  · rw [hsign.2 hc, hc, recognise_number, recognise_number, hnumber hc]
    rcases numeric? s with e | _ | ⟨found, after⟩ <;> rfl
  · have hd : d ≠ CodePoint.ofChar '#' := fun h => hc (hsign.1 h)
    cases hl : longestNamed? (c :: s) with
    | none =>
      rw [hl] at hnamed
      rw [recognise_of_unnamed hc hl, recognise_of_unnamed hd hnamed]
      rfl
    | some p =>
      obtain ⟨r, after⟩ := p
      rw [hl] at hnamed
      have hnamed' : longestNamed? (d :: t) = some (r, g after) := hnamed
      rw [recognise_of_named hl, recognise_of_named hnamed', hword r after hl]
      split <;> rfl

/-- What follows a reference is an end of the text that the reference was found in. -/
theorem suffix_of_recognise {t s after : Text} (h : recognise b t = .ok (some (s, after))) :
    after <:+ t := by
  cases t with
  | nil => cases h
  | cons c rest =>
    by_cases hc : c = CodePoint.ofChar '#'
    · subst hc
      rw [recognise_number] at h
      cases hn : numeric? rest with
      | error e => rw [hn] at h; cases h
      | ok found =>
        rw [hn] at h
        cases found with
        | none => cases h
        | some p =>
          cases h
          exact (suffix_of_numeric? hn).trans (List.suffix_cons _ rest)
    · cases hl : longestNamed? (c :: rest) with
      | none => rw [recognise_of_unnamed hc hl] at h; cases h
      | some p =>
        rw [recognise_of_named hl] at h
        split at h
        · cases h
        · cases h
          exact ⟨_, (longestNamed?_eq_some_iff.1 hl).2.1.symm⟩

end References

/-! ### Texts -/

section Texts

variable {b : Bool}

@[simp] theorem decode_nil : decode b [] = .ok [] := by rw [decode]

theorem decode_cons_of_ne {c : CodePoint} (hc : c ≠ CodePoint.ofChar '&') (t : Text) :
    decode b (c :: t) = (decode b t).map (c :: ·) := by
  rw [decode, if_neg hc]

theorem decode_of_recognise_error {t : Text} {e : NumeralError} (h : recognise b t = .error e) :
    decode b (CodePoint.ofChar '&' :: t) = .error e := by
  rw [decode, if_pos rfl]
  split <;> simp_all

theorem decode_of_recognise_none {t : Text} (h : recognise b t = .ok none) :
    decode b (CodePoint.ofChar '&' :: t) = (decode b t).map (CodePoint.ofChar '&' :: ·) := by
  rw [decode, if_pos rfl]
  split <;> simp_all

theorem decode_of_recognise_some {t s after : Text} (h : recognise b t = .ok (some (s, after))) :
    decode b (CodePoint.ofChar '&' :: t) = (decode b after).map (s ++ ·) := by
  rw [decode, if_pos rfl]
  split <;> simp_all

/-- A name with its semicolon is decoded in whatever text it stands. -/
theorem decode_of_isTerminated {r : Named} (hr : r ∈ table) (hterm : r.isTerminated = true)
    (t : Text) :
    decode b (CodePoint.ofChar '&' :: (r.name ++ t)) = (decode b t).map (r.expansion ++ ·) := by
  refine decode_of_recognise_some ?_
  rw [recognise_of_named (longestNamed?_of_isTerminated hr hterm t), hterm]
  simp

theorem decode_ampersand (t : Text) :
    decode b (CodePoint.ofChar '&' :: (ampersand.name ++ t)) =
      (decode b t).map (CodePoint.ofChar '&' :: ·) :=
  decode_of_isTerminated ampersand_mem rfl t

/-- A text without ampersands is copied. -/
theorem decode_of_notMem : ∀ {t : Text}, CodePoint.ofChar '&' ∉ t → decode b t = .ok t
  | [], _ => decode_nil
  | c :: t, h => by
    rw [List.mem_cons, not_or] at h
    rw [decode_cons_of_ne (Ne.symm h.1), decode_of_notMem h.2]
    rfl

/-- Behind every `&#` in the text stand at most as many digits as a decimal number may have. -/
def DecimalsReadable (t : Text) : Prop :=
  ∀ digits : Text, (∀ c ∈ digits, c.isDigit = true) →
    (CodePoint.ofChar '&' :: CodePoint.ofChar '#' :: digits) <:+: t →
      digits.length ≤ Numeral.maxDigits

theorem DecimalsReadable.suffix {s t : Text} (h : DecimalsReadable t) (hs : s <:+ t) :
    DecimalsReadable s :=
  fun digits hd hi => h digits hd (hi.trans hs.isInfix)

/-- A text that is short enough for all of it to be digits is readable. -/
theorem decimalsReadable_of_length_le {t : Text} (h : t.length ≤ Numeral.maxDigits) :
    DecimalsReadable t := by
  intro digits _ hi
  have := hi.length_le
  simp only [List.length_cons] at this
  omega

theorem value_ne_error {t : Text}
    (h : DecimalsReadable (CodePoint.ofChar '&' :: CodePoint.ofChar '#' :: t)) :
    ∃ n, (readRadix t).1.value ((readRadix t).2.takeWhile (readRadix t).1.isDigit) = .ok n := by
  have hdecimal : ∃ n, Radix.decimal.value (t.takeWhile Radix.decimal.isDigit) = .ok n := by
    have hall : ∀ c ∈ t.takeWhile Radix.decimal.isDigit, c.isDigit = true :=
      List.all_eq_true.1 List.all_takeWhile
    have hlen : ¬ Numeral.maxDigits < (t.takeWhile Radix.decimal.isDigit).length := by
      refine Nat.not_lt.2 (h _ hall (List.IsPrefix.isInfix ?_))
      simpa using List.takeWhile_prefix _
    rw [Radix.value, Numeral.decimal_of_isDigit hall, if_neg hlen]
    exact ⟨_, rfl⟩
  cases t with
  | nil => exact hdecimal
  | cons c rest =>
    rw [readRadix]
    split
    · exact ⟨_, rfl⟩
    · exact hdecimal

/-- Where its decimal numbers are readable, a text has a reference or none behind an ampersand. -/
theorem exists_recognise {t : Text} (h : DecimalsReadable (CodePoint.ofChar '&' :: t)) :
    ∃ found, recognise b t = .ok found := by
  cases t with
  | nil => exact ⟨_, rfl⟩
  | cons c rest =>
    by_cases hc : c = CodePoint.ofChar '#'
    · subst hc
      obtain ⟨n, hn⟩ := value_ne_error h
      rw [recognise_number]
      by_cases hd : (readRadix rest).2.takeWhile (readRadix rest).1.isDigit = []
      · rw [numeric?_of_no_digits hd]
        exact ⟨_, rfl⟩
      · rw [numeric?_of_digits hd, hn]
        exact ⟨_, rfl⟩
    · cases hl : longestNamed? (c :: rest) with
      | none => exact ⟨_, recognise_of_unnamed hc hl⟩
      | some p => exact ⟨_, recognise_of_named hl⟩

end Texts

end Reference

end TokenConformance
