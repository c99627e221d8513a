import TokenConformance.Proofs.Reference.Append
import TokenConformance.Proofs.Reference.MachineDecode

/-!
# When decoding fails — decimal numbers with too many digits, and nothing else

Decoding succeeds exactly on the texts whose decimal numbers are readable (`exists_decode_iff`), and fails
for no other reason (`eq_tooLong_of_decode`).  A number that is read gives the character of its value, in
whatever text it stands (`decode_number_within`): zeros in front of its digits make no difference
(`decode_leadingZeros`), and a value beyond the last code point gives U+FFFD (`decode_beyond`).
-/

namespace TokenConformance.Reference

/-! ## Definitions -/

section Defs

/-- What stands between `&#` and the digits of a number. -/
def Radix.IsMark : Radix → Text → Prop
  | decimal, mark => mark = []
  | hexadecimal, mark => mark = [CodePoint.ofChar 'x'] ∨ mark = [CodePoint.ofChar 'X']

/-- A numeric reference up to its digits. -/
def numberStart (mark : Text) : Text := CodePoint.ofChar '&' :: CodePoint.ofChar '#' :: mark

end Defs

/-! ## Numbers -/

section Numbers

variable {b : Bool} {radix : Radix} {mark digits before after t : Text} {d : CodePoint} {n : ℕ}

theorem readRadix_of_isMark (hmark : radix.IsMark mark) (hd : radix.isDigit d = true) (t : Text) :
    readRadix (mark ++ d :: t) = (radix, d :: t) := by
  cases radix with
  | decimal =>
    have hmark : mark = [] := hmark
    have hx : ¬ (d = CodePoint.ofChar 'x' || d = CodePoint.ofChar 'X') = true := by
      rw [Bool.or_eq_true, decide_eq_true_eq, decide_eq_true_eq]
      rintro (rfl | rfl) <;> exact absurd hd (by decide)
    rw [hmark]
    exact if_neg hx
  | hexadecimal =>
    rcases hmark with rfl | rfl <;> rfl

/-- A number is decoded to the character of its value. -/
theorem decode_number (hmark : radix.IsMark mark) (hd : radix.isDigit d = true) (t : Text) :
    decode b (numberStart mark ++ d :: t) = radix.value ((d :: t).takeWhile radix.isDigit) >>= fun n =>
      (decode b (dropSemicolon ((d :: t).dropWhile radix.isDigit))).map (character n :: ·) := by
  have hread := readRadix_of_isMark hmark hd t
  have hdigits : (readRadix (mark ++ d :: t)).2.takeWhile (readRadix (mark ++ d :: t)).1.isDigit ≠
      [] := by
    rw [hread, List.takeWhile_cons_of_pos hd]
    exact List.cons_ne_nil _ _
  have hnumeric := numeric?_of_digits hdigits
  have hstart : numberStart mark ++ d :: t =
      CodePoint.ofChar '&' :: CodePoint.ofChar '#' :: (mark ++ d :: t) := rfl
  rw [hread] at hnumeric
  dsimp only at hnumeric
  rw [hstart]
  cases hvalue : radix.value ((d :: t).takeWhile radix.isDigit) with
  | error e =>
    rw [hvalue] at hnumeric
    refine decode_of_recognise_error ?_
    rw [recognise_number, hnumeric]
    rfl
  | ok n =>
    rw [hvalue] at hnumeric
    have hfound : recognise b (CodePoint.ofChar '#' :: (mark ++ d :: t)) =
        .ok (some ([character n], dropSemicolon ((d :: t).dropWhile radix.isDigit))) := by
      rw [recognise_number, hnumeric]
      rfl
    rw [decode_of_recognise_some hfound]
    rfl

/-- In whatever text it stands. -/
theorem decode_number_within (hmark : radix.IsMark mark) (hd : radix.isDigit d = true)
    (before t : Text) :
    decode b (before ++ (numberStart mark ++ d :: t)) = decode b before >>= fun u =>
      radix.value ((d :: t).takeWhile radix.isDigit) >>= fun n =>
        (decode b (dropSemicolon ((d :: t).dropWhile radix.isDigit))).map fun v =>
          u ++ character n :: v := by
  have hcut := decode_append_of_separates (b := b) separates_ampersand before
    (CodePoint.ofChar '#' :: (mark ++ d :: t))
  have hnumber := decode_number (b := b) hmark hd t
  refine hcut.trans ?_
  cases decode b before with
  | error e => rfl
  | ok u =>
    refine (congrArg (Except.map (u ++ ·)) hnumber).trans ?_
    cases radix.value ((d :: t).takeWhile radix.isDigit) with
    | error e => rfl
    | ok n => cases decode b (dropSemicolon ((d :: t).dropWhile radix.isDigit)) <;> rfl

theorem eq_tooLong_of_value {e : NumeralError} (hd : ∀ c ∈ digits, radix.isDigit c = true)
    (h : radix.value digits = .error e) : e = .tooLong := by
  cases radix with
  | decimal =>
    rw [Radix.value, Numeral.decimal_of_isDigit hd] at h
    split at h
    · cases h
      rfl
    · cases h
  | hexadecimal => cases h

theorem ofDigits_replicate_zero (base : ℕ) (values : List ℕ) : ∀ k : ℕ,
    Numeral.ofDigits base (List.replicate k 0 ++ values) = Numeral.ofDigits base values
  | 0 => rfl
  | k + 1 => by
    have hstep : Numeral.ofDigits base (List.replicate (k + 1) 0 ++ values) =
        (List.replicate k 0 ++ values).foldl (fun n d => n * base + d) (0 * base + 0) := rfl
    rw [hstep, Nat.zero_mul]
    exact ofDigits_replicate_zero base values k

/-- Zeros in front of its digits leave the value of a number, as long as they leave it readable. -/
theorem value_of_leadingZeros {k : ℕ} (hd : ∀ c ∈ digits, radix.isDigit c = true)
    (h : radix.value (List.replicate k (CodePoint.ofChar '0') ++ digits) = .ok n) :
    radix.value digits = .ok n := by
  cases radix with
  | decimal =>
    have hzeros : ∀ c ∈ List.replicate k (CodePoint.ofChar '0') ++ digits, c.isDigit = true := by
      intro c hc
      rcases List.mem_append.1 hc with hc | hc
      · rw [List.eq_of_mem_replicate hc]
        decide
      · exact hd c hc
    rw [Radix.value, Numeral.decimal_of_isDigit hzeros] at h
    split at h
    · cases h
    · rename_i hlength
      have hshort : ¬ Numeral.maxDigits < digits.length := by
        rw [List.length_append] at hlength
        omega
      rw [Radix.value, Numeral.decimal_of_isDigit hd, if_neg hshort, ← h, List.map_append,
        List.map_replicate]
      exact congrArg Except.ok (ofDigits_replicate_zero 10 _ k).symm
  | hexadecimal =>
    rw [← h, Radix.value, Radix.value, Numeral.hexadecimal, Numeral.hexadecimal, List.map_append,
      List.map_replicate]
    exact congrArg Except.ok (ofDigits_replicate_zero 16 _ k).symm

end Numbers

/-! ## Failures -/

section Failures

variable {b : Bool} {s t before after : Text} {e : NumeralError}

theorem DecimalsReadable.of_infix (h : DecimalsReadable t) (hs : s <:+: t) : DecimalsReadable s :=
  fun digits hd hi => h digits hd (hi.trans hs)

theorem eq_tooLong_of_numeric? (h : numeric? t = .error e) : e = .tooLong := by
  by_cases hd : (readRadix t).2.takeWhile (readRadix t).1.isDigit = []
  · rw [numeric?_of_no_digits hd] at h
    cases h
  · rw [numeric?_of_digits hd, Except.map_eq_error_iff] at h
    exact eq_tooLong_of_value (List.all_eq_true.1 List.all_takeWhile) h

theorem eq_tooLong_of_recognise (h : recognise b t = .error e) : e = .tooLong := by
  cases t with
  | nil => cases h
  | cons c rest =>
    by_cases hc : c = CodePoint.ofChar '#'
    · subst hc
      rw [recognise_number, Except.map_eq_error_iff] at h
      exact eq_tooLong_of_numeric? h
    · cases hl : longestNamed? (c :: rest) with
      | none =>
        rw [recognise_of_unnamed hc hl] at h
        cases h
      | some p =>
        rw [recognise_of_named hl] at h
        cases h

/-- Decoding fails for one reason only. -/
theorem eq_tooLong_of_decode (h : decode b t = .error e) : e = .tooLong := by
  induction t using decode.induct b with
  | case1 =>
    rw [decode_nil] at h
    cases h
  | case2 rest e' hrecognise =>
    rw [decode_of_recognise_error hrecognise] at h
    cases h
    exact eq_tooLong_of_recognise hrecognise
  | case3 rest hrecognise ih =>
    rw [decode_of_recognise_none hrecognise] at h
    exact ih (Except.map_eq_error_iff.1 h)
  | case4 rest found after hrecognise ih =>
    rw [decode_of_recognise_some hrecognise] at h
    exact ih (Except.map_eq_error_iff.1 h)
  | case5 c rest hc ih =>
    rw [decode_cons_of_ne hc] at h
    exact ih (Except.map_eq_error_iff.1 h)

/-- A decimal number with too many digits fails, in whatever text it stands. -/
theorem decode_of_unreadable (h : ¬ DecimalsReadable t) : decode b t = .error .tooLong := by
  unfold DecimalsReadable at h
  push Not at h
  obtain ⟨digits, hdigits, ⟨before, after, ht⟩, hlength⟩ := h
  obtain ⟨d, digits, rfl⟩ := List.exists_cons_of_length_pos (Nat.lt_of_le_of_lt (Nat.zero_le _) hlength)
  have hmark : Radix.decimal.IsMark [] := rfl
  have ht' : t = before ++ (numberStart [] ++ d :: (digits ++ after)) := by
    rw [← ht]
    simp [numberStart]
  have hrun : (d :: digits ++ after).takeWhile Radix.decimal.isDigit =
      d :: digits ++ after.takeWhile Radix.decimal.isDigit :=
    List.takeWhile_append_of_pos hdigits
  have hall : ∀ c ∈ d :: digits ++ after.takeWhile Radix.decimal.isDigit, c.isDigit = true := by
    rw [← hrun]
    exact List.all_eq_true.1 List.all_takeWhile
  have hlong : Numeral.maxDigits <
      (d :: digits ++ after.takeWhile Radix.decimal.isDigit).length := by
    rw [List.length_append]
    omega
  have hvalue : Radix.decimal.value ((d :: (digits ++ after)).takeWhile Radix.decimal.isDigit) =
      .error .tooLong := by
    rw [← List.cons_append, hrun, Radix.value, Numeral.decimal_of_isDigit hall, if_pos hlong]
  rw [ht', decode_number_within hmark (hdigits d (by simp)), hvalue]
  cases hbefore : decode b before with
  | error e => rw [eq_tooLong_of_decode hbefore]; rfl
  | ok u => rfl

theorem exists_decode (h : DecimalsReadable t) : ∃ s, decode b t = .ok s := by
  obtain ⟨s, hs, -⟩ := Machine.run_plain_of_readable (b := b) t.length t rfl h
  exact ⟨s, hs⟩

/-- **Decoding succeeds exactly where the decimal numbers are readable.** -/
theorem exists_decode_iff : (∃ s, decode b t = .ok s) ↔ DecimalsReadable t := by
  refine ⟨?_, exists_decode⟩
  rintro ⟨s, hs⟩
  by_contra h
  rw [decode_of_unreadable h] at hs
  cases hs

theorem decode_eq_error_iff : decode b t = .error e ↔ e = .tooLong ∧ ¬ DecimalsReadable t := by
  constructor
  · intro h
    refine ⟨eq_tooLong_of_decode h, ?_⟩
    intro hreadable
    obtain ⟨s, hs⟩ := exists_decode (b := b) hreadable
    rw [hs] at h
    cases h
  · rintro ⟨rfl, h⟩
    exact decode_of_unreadable h

end Failures

/-! ## Numbers in readable texts -/

section Readable

variable {b : Bool} {radix : Radix} {mark digits before after t : Text} {d : CodePoint}

/-- A readable number has a value. -/
theorem exists_value (hmark : radix.IsMark mark) (hd : radix.isDigit d = true)
    (h : DecimalsReadable (before ++ (numberStart mark ++ d :: t))) :
    ∃ n, radix.value ((d :: t).takeWhile radix.isDigit) = .ok n := by
  have hnumber : DecimalsReadable
      (CodePoint.ofChar '&' :: CodePoint.ofChar '#' :: (mark ++ d :: t)) :=
    h.of_infix (List.suffix_append before _).isInfix
  have hvalue := value_ne_error hnumber
  rw [readRadix_of_isMark hmark hd t] at hvalue
  exact hvalue

/-- Zeros in front of the digits of a number make no difference. -/
theorem decode_leadingZeros {k : ℕ} (hmark : radix.IsMark mark) (hd : radix.isDigit d = true)
    (h : DecimalsReadable
      (before ++ (numberStart mark ++ (List.replicate k (CodePoint.ofChar '0') ++ d :: t)))) :
    decode b (before ++ (numberStart mark ++ (List.replicate k (CodePoint.ofChar '0') ++ d :: t))) =
      decode b (before ++ (numberStart mark ++ d :: t)) := by
  cases k with
  | zero => rfl
  | succ k =>
    have hzero : radix.isDigit (CodePoint.ofChar '0') = true := by cases radix <;> decide
    have hzeros : ∀ c ∈ List.replicate (k + 1) (CodePoint.ofChar '0'), radix.isDigit c = true := by
      intro c hc
      rw [List.eq_of_mem_replicate hc]
      exact hzero
    have htake := @List.takeWhile_append_of_pos _ _ _ (d :: t) hzeros
    have hdrop := @List.dropWhile_append_of_pos _ _ _ (d :: t) hzeros
    rw [List.replicate_succ, List.cons_append] at h htake hdrop ⊢
    obtain ⟨n, hn⟩ := exists_value hmark hzero h
    rw [decode_number_within hmark hzero, decode_number_within hmark hd, hn, hdrop]
    rw [htake, ← List.replicate_succ] at hn
    rw [value_of_leadingZeros (List.all_eq_true.1 List.all_takeWhile) hn]

/-- A number beyond the last code point gives U+FFFD. -/
theorem decode_beyond (hmark : radix.IsMark mark) (hne : digits ≠ [])
    (hdigits : ∀ c ∈ digits, radix.isDigit c = true)
    (hafter : ∀ c ∈ after.head?, radix.isDigit c = false)
    (hlarge : 0x10FFFF < Machine.readDigits radix 0 digits)
    (h : DecimalsReadable (before ++ (numberStart mark ++ (digits ++ after)))) :
    ∃ u v, decode b before = .ok u ∧ decode b (dropSemicolon after) = .ok v ∧
      decode b (before ++ (numberStart mark ++ (digits ++ after))) =
        .ok (u ++ CodePoint.replacement :: v) := by
  have hstop : after.takeWhile radix.isDigit = [] ∧ after.dropWhile radix.isDigit = after := by
    cases after with
    | nil => exact ⟨rfl, rfl⟩
    | cons c after =>
      have hc := hafter c rfl
      simp [hc]
  have htake : (digits ++ after).takeWhile radix.isDigit = digits := by
    rw [List.takeWhile_append_of_pos hdigits, hstop.1, List.append_nil]
  have hdrop : (digits ++ after).dropWhile radix.isDigit = after := by
    rw [List.dropWhile_append_of_pos hdigits, hstop.2]
  have hinfix : after <:+: before ++ (numberStart mark ++ (digits ++ after)) :=
    ((List.suffix_append digits after).trans
      ((List.suffix_append _ _).trans (List.suffix_append _ _))).isInfix
  obtain ⟨u, hu⟩ := exists_decode (b := b) (h.of_infix (List.prefix_append before _).isInfix)
  obtain ⟨v, hv⟩ := exists_decode (b := b)
    (h.of_infix ((suffix_dropSemicolon after).isInfix.trans hinfix))
  refine ⟨u, v, hu, hv, ?_⟩
  obtain ⟨d, digits, rfl⟩ := List.exists_cons_of_ne_nil hne
  rw [List.cons_append] at h htake hdrop ⊢
  obtain ⟨n, hn⟩ := exists_value hmark (hdigits d (by simp)) h
  rw [decode_number_within hmark (hdigits d (by simp)), hn, hdrop, hu, hv]
  rw [htake] at hn
  have hcharacter : character n = .replacement := by
    rw [Machine.value_eq_readDigits hdigits hn] at hlarge
    simp [character, hlarge]
  rw [← hcharacter]
  rfl

end Readable

end TokenConformance.Reference
