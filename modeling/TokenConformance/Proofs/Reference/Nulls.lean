import TokenConformance.Decoding
import TokenConformance.Proofs.ExceptLaws
import TokenConformance.Proofs.Reference.DecodeLaws

/-!
# Nulls — no reference stands for one

A number never gives the null character, be it written as zero with whatever many digits
(`character_ne_zero`), and no name of the table does (`zero_notMem_expansion`).  So decoding brings no
null into a text that has none (`zero_notMem_of_decode`), and where nulls are replaced before it, none
is left (`zero_notMem_of_decodeText`).
-/

namespace TokenConformance

/-- The kinds of text in which nulls are replaced. -/
def nullReplacingStates : List TokenizerState := [.rcdata, .rawtext, .scriptData, .plaintext]

namespace Reference

variable {b : Bool} {s t after : Text}

theorem character_ne_zero (n : Nat) : character n ≠ 0 := by
  have hpage : ∀ p ∈ codePageReplacements, p.2 ≠ 0 := by decide
  unfold character
  split
  · decide
  · rename_i hn
    cases hl : codePageReplacements.lookup n with
    | some c =>
      obtain ⟨before, rest, hpage', -⟩ := List.lookup_eq_some_iff.1 hl
      exact hpage (n, c) (by rw [hpage']; simp)
    | none =>
      simp only [Bool.or_eq_true, Bool.and_eq_true, decide_eq_true_eq, not_or] at hn
      have hlt : n < 0x110000 := by omega
      have hzero : n ≠ 0 := hn.1.1
      rw [Option.getD_none, CodePoint.ofNat, dif_pos hlt]
      intro h
      exact hzero (congrArg Fin.val h)

theorem zero_notMem_expansion : ∀ r ∈ table, (0 : CodePoint) ∉ r.expansion := by decide +kernel

/-- What a reference stands for has no null in it. -/
theorem zero_notMem_of_recognise (h : recognise b t = .ok (some (s, after))) : 0 ∉ s := by
  cases t with
  | nil => cases h
  | cons c rest =>
    by_cases hc : c = CodePoint.ofChar '#'
    · subst hc
      rw [recognise_number] at h
      by_cases hd : (readRadix rest).2.takeWhile (readRadix rest).1.isDigit = []
      · rw [numeric?_of_no_digits hd] at h
        cases h
      · rw [numeric?_of_digits hd] at h
        cases hv : (readRadix rest).1.value
            ((readRadix rest).2.takeWhile (readRadix rest).1.isDigit) with
        | error e =>
          rw [hv] at h
          cases h
        | ok n =>
          rw [hv] at h
          cases h
          rw [List.mem_singleton]
          exact (character_ne_zero n).symm
    · cases hl : longestNamed? (c :: rest) with
      | none =>
        rw [recognise_of_unnamed hc hl] at h
        cases h
      | some p =>
        rw [recognise_of_named hl] at h
        split at h
        · cases h
        · cases h
          exact zero_notMem_expansion p.1 (longestNamed?_eq_some_iff.1 hl).1

/-- **Decoding brings in no nulls.** -/
theorem zero_notMem_of_decode (h : decode b t = .ok s) (ht : 0 ∉ t) : 0 ∉ s := by
  -- along the scan: what is copied has no null, what a reference stands for has none, and the rest
  -- of the text is an end of it
  induction t using decode.induct b generalizing s with
  | case1 =>
    rw [decode_nil] at h
    cases h
    exact ht
  | case2 rest e hrecognise =>
    rw [decode_of_recognise_error hrecognise] at h
    cases h
  | case3 rest hrecognise ih =>
    rw [decode_of_recognise_none hrecognise] at h
    obtain ⟨decoded, hdecoded, rfl⟩ := Except.map_eq_ok_iff.1 h
    rw [List.mem_cons, not_or] at ht ⊢
    exact ⟨ht.1, ih hdecoded ht.2⟩
  | case4 rest found after hrecognise ih =>
    rw [decode_of_recognise_some hrecognise] at h
    obtain ⟨decoded, hdecoded, rfl⟩ := Except.map_eq_ok_iff.1 h
    have hafter : 0 ∉ after := fun hm =>
      ht (List.mem_cons_of_mem _ ((suffix_of_recognise hrecognise).subset hm))
    rw [List.mem_append, not_or]
    exact ⟨zero_notMem_of_recognise hrecognise, ih hdecoded hafter⟩
  | case5 c rest hc ih =>
    rw [decode_cons_of_ne hc] at h
    obtain ⟨decoded, hdecoded, rfl⟩ := Except.map_eq_ok_iff.1 h
    rw [List.mem_cons, not_or] at ht ⊢
    exact ⟨ht.1, ih hdecoded ht.2⟩

end Reference

/-! ### Raw text -/

section RawText

variable {s t : Text}

theorem zero_notMem_replaceNulls (t : Text) : 0 ∉ t.replaceNulls := by
  intro h
  obtain ⟨c, -, hc⟩ := List.mem_map.1 h
  split at hc
  · cases hc
  · rename_i hne
    exact hne hc

theorem Text.replaceNulls_of_notMem (h : 0 ∉ t) : t.replaceNulls = t := by
  refine (List.map_congr_left fun c hc => ?_).trans (List.map_id' t)
  have hc0 : c ≠ 0 := fun e => h (e ▸ hc)
  rw [if_neg hc0]

/-- A text that has no U+FFFD once its nulls are replaced has no nulls. -/
theorem Text.replaceNulls_eq_self (h : .replacement ∉ t.replaceNulls) : t.replaceNulls = t := by
  refine Text.replaceNulls_of_notMem fun h0 => h ?_
  exact List.mem_map.2 ⟨0, h0, if_pos rfl⟩

theorem zero_notMem_of_decodeAttributeValue (h : decodeAttributeValue t = .ok s) : 0 ∉ s :=
  Reference.zero_notMem_of_decode h (zero_notMem_replaceNulls t)

/-- Where nulls are replaced before references are decoded, none is left. -/
theorem zero_notMem_of_decodeText {state : TokenizerState} (hstate : state ∈ nullReplacingStates)
    (h : decodeText state t = .ok s) : 0 ∉ s := by
  have hall : ∀ s ∈ nullReplacingStates, s.replacesNulls = true := by decide
  have hreplaces := hall state hstate
  unfold decodeText at h
  rw [hreplaces, if_pos rfl] at h
  dsimp only at h
  split at h
  · exact Reference.zero_notMem_of_decode h (zero_notMem_replaceNulls t)
  · cases h
    exact zero_notMem_replaceNulls t

end RawText

end TokenConformance
