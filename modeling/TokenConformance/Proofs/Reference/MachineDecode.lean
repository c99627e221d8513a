import TokenConformance.Proofs.Reference.DecodeLaws
import TokenConformance.Proofs.Reference.Machine

/-!
# Decoding and the machine — the scan over a text gives what the machine emits

`decode` jumps from ampersand to ampersand, the machine reads one code point after another.  From
an ampersand the machine comes back to the state `plain` behind the reference that `recognise`
finds there, having emitted what the reference stands for (`run_of_recognise_some`); where there is
no reference it comes back having copied what it read (`run_of_recognise_none`), possibly from
further on.  The two lemmas carry the induction over the text.
-/

namespace TokenConformance.Reference.Machine

variable {b : Bool} {buffer : Text} {code : ℕ} {o : Text}

/-! ## Outside of references -/

section Plain

theorem run_plain_nil : run b ⟨.plain, buffer, code, [], o⟩ = o := run_of_stop rfl

theorem run_plain_cons {c : CodePoint} (hc : c ≠ CodePoint.ofChar '&') (t : Text) :
    run b ⟨.plain, buffer, code, c :: t, o⟩ = run b ⟨.plain, buffer, code, t, o ++ [c]⟩ :=
  run_of_step (by simp only [step, if_neg hc])

theorem run_plain_ampersand (t : Text) :
    run b ⟨.plain, buffer, code, CodePoint.ofChar '&' :: t, o⟩ =
      run b ⟨.characterReference, buffer, code, t, o⟩ :=
  run_of_step (by simp only [step, if_pos])

/-- The machine copies a text without ampersands. -/
theorem run_plain_append : ∀ (s t o : Text), CodePoint.ofChar '&' ∉ s →
    run b ⟨.plain, buffer, code, s ++ t, o⟩ = run b ⟨.plain, buffer, code, t, o ++ s⟩
  | [], t, o, _ => by simp
  | c :: s, t, o, h => by
    rw [List.mem_cons, not_or] at h
    rw [List.cons_append, run_plain_cons (Ne.symm h.1), run_plain_append s t _ h.2]
    simp

/-- Behind an ambiguous ampersand the machine copies letters and digits, as it would anyway. -/
theorem run_ambiguousAmpersand : ∀ t o : Text,
    run b ⟨.ambiguousAmpersand, buffer, code, t, o⟩ = run b ⟨.plain, buffer, code, t, o⟩
  | [], o => run_of_step (by simp [step, nextIs])
  | c :: t, o => by
    by_cases hc : c.isAlphanumeric = true
    · have hne : c ≠ CodePoint.ofChar '&' := by
        rintro rfl
        exact absurd hc (by decide)
      rw [run_plain_cons hne, ← run_ambiguousAmpersand t]
      exact run_of_step (by simp [step, nextIs, hc])
    · exact run_of_step (by simp [step, nextIs, hc])

end Plain

/-! ## Numbers -/

section Numbers

theorem isSome_digitValue? (radix : Radix) (c : CodePoint) :
    (digitValue? radix c).isSome = radix.isDigit c := by
  cases radix with
  | decimal =>
    rw [digitValue?, Radix.isDigit]
    by_cases h : c.isDigit = true <;> simp [h]
  | hexadecimal => rfl

/-- The code after some digits. -/
def readDigits (radix : Radix) (code : ℕ) (digits : Text) : ℕ :=
  digits.foldl (fun n c => n * base radix + (digitValue? radix c).getD 0) code

theorem run_numericEnd (t : Text) :
    run b ⟨.numericEnd, buffer, code, t, o⟩ =
      run b ⟨.plain, [endCharacter code], code, t, o ++ [endCharacter code]⟩ :=
  run_of_step rfl

/-- The machine reads all digits, and a semicolon behind them. -/
theorem run_digits (radix : Radix) : ∀ (t : Text) (code : ℕ),
    run b ⟨.digits radix, buffer, code, t, o⟩ =
      run b ⟨.numericEnd, buffer, readDigits radix code (t.takeWhile radix.isDigit),
        dropSemicolon (t.dropWhile radix.isDigit), o⟩
  | [], code => run_of_step rfl
  | c :: t, code => by
    have hd := isSome_digitValue? radix c
    cases hv : digitValue? radix c with
    | some d =>
      rw [hv] at hd
      have hstep : step b ⟨.digits radix, buffer, code, c :: t, o⟩ =
          some ⟨.digits radix, buffer, code * base radix + d, t, o⟩ := by simp only [step, hv]
      rw [run_of_step hstep, run_digits radix t, List.takeWhile_cons_of_pos hd.symm,
        List.dropWhile_cons_of_pos hd.symm, readDigits, readDigits, List.foldl_cons, hv]
      rfl
    | none =>
      rw [hv] at hd
      have hneg : ¬ radix.isDigit c = true := by simp [← hd]
      rw [List.takeWhile_cons_of_neg hneg, List.dropWhile_cons_of_neg hneg, dropSemicolon]
      by_cases hc : c = CodePoint.ofChar ';'
      · rw [if_pos hc]
        exact run_of_step (by simp only [step, hv, if_pos hc]; rfl)
      · rw [if_neg hc]
        exact run_of_step (by simp only [step, hv, if_neg hc]; rfl)

/-- Without digits the machine emits what it has read of the reference. -/
theorem run_start_of_no_digits {radix : Radix} {t : Text}
    (h : t.takeWhile radix.isDigit = []) :
    run b ⟨.start radix, buffer, code, t, o⟩ = run b ⟨.plain, buffer, code, t, o ++ buffer⟩ := by
  refine run_of_step ?_
  cases t with
  | nil => rfl
  | cons c t =>
    have hc : ¬ radix.isDigit c = true := fun hc => by
      rw [List.takeWhile_cons_of_pos hc] at h
      cases h
    simp [step, nextIs, isSome_digitValue?, hc, Config.flush]

theorem run_start_of_digits {radix : Radix} {t : Text} (h : t.takeWhile radix.isDigit ≠ []) :
    run b ⟨.start radix, buffer, code, t, o⟩ = run b ⟨.digits radix, buffer, code, t, o⟩ := by
  refine run_of_step ?_
  cases t with
  | nil => exact absurd rfl h
  | cons c t =>
    have hc : radix.isDigit c = true := by
      by_contra hc
      exact h (List.takeWhile_cons_of_neg hc)
    simp [step, nextIs, isSome_digitValue?, hc]

/-- The machine finds the radix, and sets aside the mark of a hexadecimal number. -/
theorem run_numeric (t : Text) : ∃ mark : Text, t = mark ++ (readRadix t).2 ∧
    CodePoint.ofChar '&' ∉ mark ∧
    run b ⟨.numeric, buffer, code, t, o⟩ =
      run b ⟨.start (readRadix t).1, buffer ++ mark, 0, (readRadix t).2, o⟩ := by
  cases t with
  | nil => exact ⟨[], rfl, by simp, run_of_step (by simp [step, nextIs, readRadix])⟩
  | cons c t =>
    rw [readRadix]
    by_cases hc : (c = CodePoint.ofChar 'x' || c = CodePoint.ofChar 'X') = true
    · rw [if_pos hc]
      refine ⟨[c], rfl, ?_, run_of_step ?_⟩
      · rw [List.mem_singleton]
        rintro rfl
        exact absurd hc (by decide)
      · simp only [step, nextIs, List.head?_cons, Option.any_some, hc, if_true]
        rfl
    · rw [if_neg hc]
      refine ⟨[], rfl, by simp, run_of_step ?_⟩
      simp only [step, nextIs, List.head?_cons, Option.any_some, hc, List.append_nil]
      rfl

/-- The value that the digits have is the code that the machine ends with. -/
theorem value_eq_readDigits {radix : Radix} {digits : Text} {n : ℕ}
    (hd : ∀ c ∈ digits, radix.isDigit c = true) (h : radix.value digits = .ok n) :
    readDigits radix 0 digits = n := by
  cases radix with
  | decimal =>
    rw [Radix.value, Numeral.decimal_of_isDigit hd] at h
    split at h
    · cases h
    · cases h
      rw [readDigits, Numeral.ofDigits, List.foldl_map]
      refine List.foldl_ext _ _ _ fun n c hc => ?_
      rw [digitValue?, if_pos (show c.isDigit = true from hd c hc)]
      rfl
  | hexadecimal =>
    cases h
    rw [readDigits, Numeral.hexadecimal, Numeral.ofDigits, List.foldl_map]
    rfl

/-- The codes of the old code page: the list of exceptions and the page agree. -/
theorem replacements_eq_westernPage : ∀ i < 0x20,
    (codePageReplacements.lookup (0x80 + i)).getD (.ofNat (0x80 + i)) =
      westernPage.getD i .replacement := by decide

theorem lookup_replacements_eq_none {n : ℕ} (h : ¬ (0x80 ≤ n ∧ n ≤ 0x9F)) :
    codePageReplacements.lookup n = none := by
  have hkeys : ∀ p ∈ codePageReplacements, 0x80 ≤ p.1 ∧ p.1 ≤ 0x9F := by decide
  rw [List.lookup_eq_none_iff]
  intro p hp
  have := hkeys p hp
  rw [bne_iff_ne]
  omega

theorem character_eq_endCharacter (n : ℕ) : character n = endCharacter n := by
  rw [character, endCharacter]
  by_cases h0 : n = 0
  · simp [h0]
  by_cases hmax : 0x10FFFF < n
  · simp [hmax]
  have hval : (CodePoint.ofNat n).val = n := by
    rw [CodePoint.ofNat, dif_pos (by omega)]
  by_cases hsurr : 0xD800 ≤ n ∧ n ≤ 0xDFFF
  · simp [CodePoint.isSurrogate, hval, hsurr]
  · have h1 : ¬ (decide (n = 0) || decide (0x10FFFF < n) ||
        (decide (0xD800 ≤ n) && decide (n ≤ 0xDFFF))) = true := by
      simp only [Bool.or_eq_true, Bool.and_eq_true, decide_eq_true_eq]
      omega
    have h2 : ¬ (CodePoint.ofNat n).isSurrogate = true := by
      rw [CodePoint.isSurrogate, hval, Bool.and_eq_true, decide_eq_true_eq, decide_eq_true_eq]
      exact hsurr
    rw [if_neg h1, if_neg h0, if_neg hmax, if_neg h2]
    by_cases hpage : 0x80 ≤ n ∧ n ≤ 0x9F
    · rw [if_pos hpage]
      obtain ⟨i, rfl⟩ := Nat.exists_eq_add_of_le hpage.1
      rw [replacements_eq_westernPage i (by omega), Nat.add_sub_cancel_left]
    · rw [if_neg hpage, lookup_replacements_eq_none hpage]
      rfl

end Numbers

/-! ## References -/

section References

theorem mem_filter_isPrefixOf {r : Named} {t : Text} :
    (r ∈ table.filter fun r => r.name.isPrefixOf t) ↔ r ∈ table ∧ r.name <+: t := by
  rw [List.mem_filter, List.isPrefixOf_iff_prefix]

/-- The longest name of the table is the one that a look-up finds. -/
theorem longestName?_eq (t : Text) : longestName? t = (longestNamed? t).map Prod.fst := by
  cases h : longestName? t with
  | none =>
    have hnone : longestNamed? t = none := by
      rw [longestNamed?_eq_none_iff]
      intro r hr hp
      have hmem := mem_filter_isPrefixOf.2 ⟨hr, hp⟩
      rw [List.argmax_eq_none.1 h] at hmem
      cases hmem
    rw [hnone]
    rfl
  | some r =>
    obtain ⟨hr, after, ht⟩ := mem_filter_isPrefixOf.1 (List.argmax_mem h)
    have hsome : longestNamed? t = some (r, after) := by
      refine longestNamed?_eq_some_iff.2 ⟨hr, ht.symm, fun s hs hsp => ?_⟩
      exact List.le_of_mem_argmax (f := fun r : Named => r.name.length)
        (mem_filter_isPrefixOf.2 ⟨hs, hsp⟩) h
    rw [hsome]
    rfl

/-- A number without digits is copied as far as it was read. -/
theorem run_number_of_no_digits {t : Text}
    (h : (readRadix t).2.takeWhile (readRadix t).1.isDigit = []) :
    ∃ buffer' code', run b ⟨.characterReference, buffer, code, CodePoint.ofChar '#' :: t, o⟩ =
      run b ⟨.plain, buffer', code', CodePoint.ofChar '#' :: t, o ++ [CodePoint.ofChar '&']⟩ := by
  obtain ⟨mark, ht, hmark, hrun⟩ := @run_numeric b
    [CodePoint.ofChar '&', CodePoint.ofChar '#'] code o t
  have hfree : CodePoint.ofChar '&' ∉ CodePoint.ofChar '#' :: mark := by
    rw [List.mem_cons, not_or]
    exact ⟨by decide, hmark⟩
  have hinput : CodePoint.ofChar '#' :: t = (CodePoint.ofChar '#' :: mark) ++ (readRadix t).2 := by
    rw [List.cons_append, ← ht]
  refine ⟨[CodePoint.ofChar '&', CodePoint.ofChar '#'] ++ mark, 0, ?_⟩
  rw [run_of_step (show step b _ = some ⟨.numeric, [CodePoint.ofChar '&', CodePoint.ofChar '#'],
    code, t, o⟩ from rfl), hrun, run_start_of_no_digits h]
  -- the machine is behind the mark, which it would have copied as well
  conv_rhs => rw [hinput, run_plain_append _ _ _ hfree]
  simp

/-- A number with digits is read to its end. -/
theorem run_number_of_digits {t : Text} {n : ℕ}
    (h : (readRadix t).2.takeWhile (readRadix t).1.isDigit ≠ [])
    (hv : (readRadix t).1.value ((readRadix t).2.takeWhile (readRadix t).1.isDigit) = .ok n) :
    ∃ buffer' code', run b ⟨.characterReference, buffer, code, CodePoint.ofChar '#' :: t, o⟩ =
      run b ⟨.plain, buffer', code', dropSemicolon ((readRadix t).2.dropWhile (readRadix t).1.isDigit),
        o ++ [character n]⟩ := by
  obtain ⟨mark, -, -, hrun⟩ := @run_numeric b
    [CodePoint.ofChar '&', CodePoint.ofChar '#'] code o t
  rw [run_of_step (show step b _ = some ⟨.numeric, [CodePoint.ofChar '&', CodePoint.ofChar '#'],
    code, t, o⟩ from rfl), hrun, run_start_of_digits h, run_digits,
    value_eq_readDigits (List.all_eq_true.1 List.all_takeWhile) hv, run_numericEnd,
    character_eq_endCharacter]
  exact ⟨_, _, rfl⟩

theorem run_alphanumeric {c : CodePoint} (hc : c.isAlphanumeric = true) (t : Text) :
    run b ⟨.characterReference, buffer, code, c :: t, o⟩ =
      run b ⟨.named, [CodePoint.ofChar '&'], code, c :: t, o⟩ :=
  run_of_step (by simp only [step, nextIs, List.head?_cons, Option.any_some, hc, if_true])

/-- Where nothing of a reference follows, the ampersand is emitted. -/
theorem run_other {t : Text} (hc : nextIs CodePoint.isAlphanumeric t = false)
    (hn : nextIs (· = CodePoint.ofChar '#') t = false) :
    run b ⟨.characterReference, buffer, code, t, o⟩ =
      run b ⟨.plain, [CodePoint.ofChar '&'], code, t, o ++ [CodePoint.ofChar '&']⟩ :=
  run_of_step (by simp [step, hc, hn, Config.flush])

theorem run_named_of_none {t : Text} (h : longestName? t = none) :
    run b ⟨.named, [CodePoint.ofChar '&'], code, t, o⟩ =
      run b ⟨.plain, [CodePoint.ofChar '&'], code, t, o ++ [CodePoint.ofChar '&']⟩ := by
  have hstep : step b ⟨.named, [CodePoint.ofChar '&'], code, t, o⟩ =
      some ⟨.ambiguousAmpersand, [CodePoint.ofChar '&'], code, t,
        o ++ [CodePoint.ofChar '&']⟩ := by
    simp only [step, h]
    rfl
  rw [run_of_step hstep, run_ambiguousAmpersand]

theorem continuesWord_eq_nextIs (t : Text) :
    continuesWord t = nextIs (fun x => x = CodePoint.ofChar '=' || x.isAlphanumeric) t := by
  cases t <;> rfl

/-- A name is replaced by what it stands for. -/
theorem run_named_of_some {r : Named} {after : Text} (hr : longestName? (r.name ++ after) = some r)
    (hx : ¬ (b && !r.isTerminated && continuesWord after) = true) :
    run b ⟨.named, [CodePoint.ofChar '&'], code, r.name ++ after, o⟩ =
      run b ⟨.plain, r.expansion, code, after, o ++ r.expansion⟩ := by
  rw [continuesWord_eq_nextIs] at hx
  refine run_of_step ?_
  simp only [step, hr, List.drop_left]
  rw [if_neg]
  · rfl
  · simpa [Named.isTerminated] using hx

/-- In an attribute value a name without a semicolon that goes on as a word is copied. -/
theorem run_named_of_exception {r : Named} {after : Text} (hmem : r ∈ table)
    (hr : longestName? (r.name ++ after) = some r)
    (hx : (b && !r.isTerminated && continuesWord after) = true) :
    ∃ buffer', run b ⟨.named, [CodePoint.ofChar '&'], code, r.name ++ after, o⟩ =
      run b ⟨.plain, buffer', code, r.name ++ after, o ++ [CodePoint.ofChar '&']⟩ := by
  have hfree : CodePoint.ofChar '&' ∉ r.name := notMem_name hmem (by decide) (by decide)
  rw [continuesWord_eq_nextIs] at hx
  have hstep : step b ⟨.named, [CodePoint.ofChar '&'], code, r.name ++ after, o⟩ =
      some ⟨.plain, CodePoint.ofChar '&' :: r.name, code, after,
        o ++ CodePoint.ofChar '&' :: r.name⟩ := by
    simp only [step, hr, List.drop_left]
    rw [if_pos]
    · rfl
    · simpa [Named.isTerminated, and_assoc] using hx
  refine ⟨CodePoint.ofChar '&' :: r.name, ?_⟩
  rw [run_of_step hstep, run_plain_append _ _ _ hfree]
  simp

/-- **A reference**: the machine emits what it stands for, and goes on behind it. -/
theorem run_of_recognise_some {t s after : Text} (h : recognise b t = .ok (some (s, after))) :
    ∃ buffer' code', run b ⟨.characterReference, buffer, code, t, o⟩ =
      run b ⟨.plain, buffer', code', after, o ++ s⟩ := by
  cases t with
  | nil => cases h
  | cons c rest =>
    by_cases hc : c = CodePoint.ofChar '#'
    · subst hc
      rw [recognise_number] at h
      by_cases hd : (readRadix rest).2.takeWhile (readRadix rest).1.isDigit = []
      · rw [numeric?_of_no_digits hd] at h
        cases h
      · rw [numeric?_of_digits hd] at h
        cases hv : (readRadix rest).1.value
            ((readRadix rest).2.takeWhile (readRadix rest).1.isDigit) with
        | error e => rw [hv] at h; cases h
        | ok n =>
          rw [hv] at h
          cases h
          exact run_number_of_digits hd hv
    · cases hl : longestNamed? (c :: rest) with
      | none => rw [recognise_of_unnamed hc hl] at h; cases h
      | some p =>
        obtain ⟨r, after'⟩ := p
        obtain ⟨hr, ht, -⟩ := longestNamed?_eq_some_iff.1 hl
        have hname : longestName? (r.name ++ after') = some r := by
          rw [← ht, longestName?_eq, hl]
          rfl
        rw [recognise_of_named hl] at h
        split at h
        · cases h
        · rename_i hx
          cases h
          rw [run_alphanumeric (isAlphanumeric_of_startsWith hr (ht ▸ List.prefix_append _ _)), ht]
          exact ⟨_, _, run_named_of_some hname hx⟩

/-- **No reference**: the machine emits the ampersand, and copies what it read behind it. -/
theorem run_of_recognise_none {t : Text} (h : recognise b t = .ok none) :
    ∃ buffer' code', run b ⟨.characterReference, buffer, code, t, o⟩ =
      run b ⟨.plain, buffer', code', t, o ++ [CodePoint.ofChar '&']⟩ := by
  cases t with
  | nil => exact ⟨_, _, run_other rfl rfl⟩
  | cons c rest =>
    by_cases hc : c = CodePoint.ofChar '#'
    · subst hc
      by_cases hd : (readRadix rest).2.takeWhile (readRadix rest).1.isDigit = []
      · exact run_number_of_no_digits hd
      · rw [recognise_number, numeric?_of_digits hd] at h
        cases hv : (readRadix rest).1.value
            ((readRadix rest).2.takeWhile (readRadix rest).1.isDigit) <;> rw [hv] at h <;> cases h
    by_cases halnum : c.isAlphanumeric = true
    · rw [run_alphanumeric halnum]
      cases hl : longestNamed? (c :: rest) with
      | none => exact ⟨_, _, run_named_of_none (by rw [longestName?_eq, hl]; rfl)⟩
      | some p =>
        obtain ⟨r, after⟩ := p
        obtain ⟨hr, ht, -⟩ := longestNamed?_eq_some_iff.1 hl
        have hname : longestName? (r.name ++ after) = some r := by
          rw [← ht, longestName?_eq, hl]
          rfl
        rw [recognise_of_named hl] at h
        split at h
        · rename_i hx
          obtain ⟨buffer', hrun⟩ := @run_named_of_exception b code o r after hr hname hx
          rw [ht]
          exact ⟨buffer', code, hrun⟩
        · cases h
    · exact ⟨_, _, run_other (by simp [nextIs, halnum]) (by simp [nextIs, hc])⟩

end References

/-! ## Texts -/

section Texts

/-- From the state outside of references the machine emits what decoding gives. -/
theorem run_plain_of_readable : ∀ (n : ℕ) (t : Text), t.length = n → DecimalsReadable t →
    ∃ s, decode b t = .ok s ∧
      ∀ buffer code o, run b ⟨.plain, buffer, code, t, o⟩ = o ++ s := by
  intro n
  induction n using Nat.strong_induction_on with
  | _ n ih =>
    rintro (_ | ⟨c, t⟩) hn hread
    · exact ⟨[], decode_nil, fun _ _ o => by rw [run_plain_nil, List.append_nil]⟩
    rw [List.length_cons] at hn
    obtain ⟨s, hs, hrun⟩ := ih t.length (by omega) t rfl (hread.suffix (List.suffix_cons c t))
    by_cases hc : c = CodePoint.ofChar '&'
    · subst hc
      obtain ⟨found, hf⟩ := exists_recognise (b := b) hread
      cases found with
      | none =>
        refine ⟨_, by rw [decode_of_recognise_none hf, hs]; rfl, fun buffer code o => ?_⟩
        obtain ⟨buffer', code', h⟩ := @run_of_recognise_none b buffer code o t hf
        rw [run_plain_ampersand, h, hrun]
        simp
      | some p =>
        obtain ⟨x, after⟩ := p
        have hafter := suffix_of_recognise hf
        have hlen := hafter.length_le
        obtain ⟨s', hs', hrun'⟩ := ih after.length (by omega) after rfl
          (hread.suffix (hafter.trans (List.suffix_cons _ t)))
        refine ⟨_, by rw [decode_of_recognise_some hf, hs']; rfl, fun buffer code o => ?_⟩
        obtain ⟨buffer', code', h⟩ := @run_of_recognise_some b buffer code o t x after hf
        rw [run_plain_ampersand, h, hrun']
        simp
    · refine ⟨_, by rw [decode_cons_of_ne hc, hs]; rfl, fun buffer code o => ?_⟩
      rw [run_plain_cons hc, hrun]
      simp

/-- **Decoding is what the machine does**, on every text whose decimal numbers can be read. -/
theorem decode_eq_ok_emit {t : Text} (h : DecimalsReadable t) :
    decode b t = .ok (emit b t) := by
  obtain ⟨s, hs, hrun⟩ := run_plain_of_readable (b := b) t.length t rfl h
  rw [hs, emit, hrun, List.nil_append]

/-- Truncated, adjacent and ambiguous references in an attribute value. -/
theorem decode_eq_ok_emit_of_malformed :
    DecimalsReadable (Text.ofString "&am&ampx=&#x&#65&not;it&notit;&#0;&#x80&amp") ∧
      decode true (Text.ofString "&am&ampx=&#x&#65&not;it&notit;&#0;&#x80&amp") =
        .ok (emit true (Text.ofString "&am&ampx=&#x&#65&not;it&notit;&#0;&#x80&amp")) :=
  have h := decimalsReadable_of_length_le (by decide)
  ⟨h, decode_eq_ok_emit h⟩

end Texts

end TokenConformance.Reference.Machine
