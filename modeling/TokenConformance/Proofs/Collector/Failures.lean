import TokenConformance.Proofs.Collector.Faithful
import TokenConformance.Proofs.Reference.Failure
import TokenConformance.Proofs.Reference.NullReplacement

/-!
# Failing pushes — which there are, and what they leave behind

Decoding needs no more than that the decimal numbers of a text are readable, and a push that decodes
no more than that those of its `referenceTexts` are (`failure?_push_eq_some_iff`).  A failed push of
anything but text leaves the tokens alone; a chunk that fails stays in them, raw
(`tokens_push_of_failure`).
-/

namespace TokenConformance

open Reference (DecimalsReadable numberStart decode)

/-! ## Definitions -/

section Defs

/-- The raw texts that a push searches for references. -/
def Collector.referenceTexts (c : Collector) : StreamToken → List Text
  | .text chunk =>
    if chunk.isLast && chunk.state.allowsReferences then
      [(c.currentText.data ++ chunk.text).drop c.currentText.decodedUntil]
    else []
  | .startTag _ attributes _ => attributes.map Attribute.value
  | _ => []

/-- The letter A as a number with two digits more than can be read. -/
def overlongNumber : Text :=
  numberStart [] ++
    (List.replicate Numeral.maxDigits (CodePoint.ofChar '0') ++ Text.ofString "65")

/-- The number as the last chunk of a text. -/
def overlongChunk : StreamToken := .text ⟨overlongNumber, .data, true⟩

/-- A collector with a text at its tail. -/
def collectorWithText : Collector :=
  (Collector.empty.push (.text ⟨Text.ofString "a", .data, true⟩)).collector

end Defs

/-! ## Decoders -/

section Decoders

variable {b : Bool} {s t : Text} {e : NumeralError}

theorem decimalsReadable_replaceNulls_iff : DecimalsReadable t.replaceNulls ↔ DecimalsReadable t := by
  refine forall₂_congr fun digits hdigits => ?_
  have hnumber : ∀ c ∈ CodePoint.ofChar '&' :: CodePoint.ofChar '#' :: digits,
      c ≠ 0 ∧ c ≠ .replacement := by
    intro c hc
    rcases List.mem_cons.1 hc with rfl | hc
    · decide
    rcases List.mem_cons.1 hc with rfl | hc
    · decide
    have hdigit := hdigits c hc
    constructor
    · rintro rfl
      exact absurd hdigit (by decide)
    · rintro rfl
      exact absurd hdigit (by decide)
  rw [Text.infix_replaceNulls_iff (fun h => (hnumber _ h).1 rfl) (fun h => (hnumber _ h).2 rfl)]

theorem decodeAttributeValue_eq_error_iff :
    decodeAttributeValue t = .error e ↔ e = .tooLong ∧ ¬ DecimalsReadable t := by
  rw [decodeAttributeValue, Reference.decode_eq_error_iff, decimalsReadable_replaceNulls_iff]

theorem decodeText_eq_error_iff {state : TokenizerState} : decodeText state t = .error e ↔
    e = .tooLong ∧ state.allowsReferences = true ∧ ¬ DecimalsReadable t := by
  have hreadable : DecimalsReadable (if state.replacesNulls then t.replaceNulls else t) ↔
      DecimalsReadable t := by
    split
    · exact decimalsReadable_replaceNulls_iff
    · exact Iff.rfl
  unfold decodeText
  cases hstate : state.allowsReferences with
  | false => simp
  | true => simp [Reference.decode_eq_error_iff, hreadable]

end Decoders

namespace Collector

variable {c : Collector} {t : StreamToken} {e : PushError}

/-! ## Reasons -/

section Reasons

theorem decodeAttributes_eq_error_iff {attributes : List Attribute} {e : NumeralError} :
    decodeAttributes attributes = .error e ↔
      e = .tooLong ∧ ∃ a ∈ attributes, ¬ DecimalsReadable a.value := by
  unfold decodeAttributes
  rw [bind_pure_comp]
  refine Except.map_eq_error_iff.trans (Except.mapM_eq_error_iff fun a e => ?_)
  rw [bind_pure_comp]
  exact Except.map_eq_error_iff.trans decodeAttributeValue_eq_error_iff

/-- A chunk fails to be decoded exactly if it is the last of its node, references are decoded in it,
and the raw part of the text has an unreadable number in it. -/
theorem failure?_pushText_eq_some_iff {chunk : TextChunk} :
    (c.pushText chunk).failure? = some e ↔
      e = .numeral .tooLong ∧ ∃ raw ∈ c.referenceTexts (.text chunk), ¬ DecimalsReadable raw := by
  have hraws : (∃ raw ∈ c.referenceTexts (.text chunk), ¬ DecimalsReadable raw) ↔
      chunk.isLast = true ∧ chunk.state.allowsReferences = true ∧
        ¬ DecimalsReadable ((c.currentText.data ++ chunk.text).drop c.currentText.decodedUntil) := by
    simp [referenceTexts, and_assoc]
  rw [hraws]
  rcases pushText_cases c chunk with ⟨hlast, hfail, -⟩ | ⟨e', hlast, hdecode, hfail, -⟩ |
    ⟨decoded, hlast, hdecode, hfail, -⟩
  · simp [hfail, hlast]
  · obtain ⟨rfl, hraw⟩ := decodeText_eq_error_iff.1 hdecode
    simp [hfail, hlast, hraw, eq_comm]
  · have hreadable : ¬ (chunk.state.allowsReferences = true ∧
        ¬ DecimalsReadable
          ((c.currentText.data ++ chunk.text).drop c.currentText.decodedUntil)) := by
      intro hraw
      rw [decodeText_eq_error_iff.2 ⟨rfl, hraw⟩] at hdecode
      cases hdecode
    rw [hfail]
    exact ⟨nofun, fun h => absurd h.2.2 hreadable⟩

theorem failure?_push_of_not_text (ht : t.isText = false) :
    (c.push t).failure? = some e ↔ tokenOf t = .error e := by
  cases htoken : tokenOf t with
  | error e' => simp [(push_of_tokenOf_error ht htoken).1]
  | ok token => simp [(push_of_tokenOf ht htoken).1]

/-- **Why a push fails**: the value is no stream token, or a text that is searched for references has
an unreadable number in it. -/
theorem failure?_push_eq_some_iff : (c.push t).failure? = some e ↔
    (∃ typeName, t = .foreign typeName ∧ e = .unsupported typeName) ∨
      e = .numeral .tooLong ∧ ∃ raw ∈ c.referenceTexts t, ¬ DecimalsReadable raw := by
  cases t with
  | text chunk => simp [push, failure?_pushText_eq_some_iff]
  | startTag name attributes selfClosing =>
    have hvalues : (∃ raw ∈ c.referenceTexts (.startTag name attributes selfClosing),
        ¬ DecimalsReadable raw) ↔ ∃ a ∈ attributes, ¬ DecimalsReadable a.value := by
      simp [referenceTexts]
    have htoken : tokenOf (.startTag name attributes selfClosing) = .error e ↔
        ∃ e', e = .numeral e' ∧ decodeAttributes attributes = .error e' := by
      rw [tokenOf]
      cases decodeAttributes attributes <;> simp [eq_comm]
    rw [failure?_push_of_not_text rfl, htoken, hvalues]
    simp [decodeAttributes_eq_error_iff]
  | foreign typeName =>
    rw [failure?_push_of_not_text rfl]
    simp [tokenOf, referenceTexts, eq_comm]
  | endTag _ _ _ | comment _ | doctype _ _ _ _ =>
    rw [failure?_push_of_not_text rfl]
    simp [tokenOf, referenceTexts]

/-- A push fails to decode exactly if a text that it searches has an unreadable number in it. -/
theorem failure?_push_eq_numeral_iff {e : NumeralError} :
    (c.push t).failure? = some (.numeral e) ↔
      e = .tooLong ∧ ∃ raw ∈ c.referenceTexts t, ¬ DecimalsReadable raw := by
  rw [failure?_push_eq_some_iff, PushError.numeral.injEq]
  exact or_iff_right fun ⟨_, _, h⟩ => nomatch h

end Reasons

/-! ## Totality -/

section Totality

/-- **Decoding fails on long decimal numbers only.**  It succeeds on exactly the texts whose decimal
numbers are readable; there, zeros in front of a number make no difference, and a value beyond the
last code point gives U+FFFD.  The same texts are those that the decoders succeed on and that a
push gets through with. -/
theorem fails_on_unreadable_only (b : Bool) (t : Text) :
    ((∃ s, decode b t = .ok s) ↔ DecimalsReadable t) ∧
      (∀ e, decode b t = .error e → e = .tooLong) ∧
      (∀ (radix : Reference.Radix) (mark before rest : Text) (d : CodePoint) (k : ℕ),
        t = before ++ (numberStart mark ++ (List.replicate k (CodePoint.ofChar '0') ++ d :: rest)) →
        radix.IsMark mark → radix.isDigit d = true → DecimalsReadable t →
          decode b t = decode b (before ++ (numberStart mark ++ d :: rest))) ∧
      (∀ (radix : Reference.Radix) (mark before digits after : Text),
        t = before ++ (numberStart mark ++ (digits ++ after)) →
        radix.IsMark mark → digits ≠ [] → (∀ c ∈ digits, radix.isDigit c = true) →
        (∀ c ∈ after.head?, radix.isDigit c = false) →
        0x10FFFF < Reference.Machine.readDigits radix 0 digits → DecimalsReadable t →
          ∃ u v, decode b before = .ok u ∧ decode b (Reference.dropSemicolon after) = .ok v ∧
            decode b t = .ok (u ++ .replacement :: v)) ∧
      (∀ state, (∃ s, decodeText state t = .ok s) ↔
        (state.allowsReferences = true → DecimalsReadable t)) ∧
      ((∃ s, decodeAttributeValue t = .ok s) ↔ DecimalsReadable t) ∧
      ∀ (c : Collector) (token : StreamToken) (e : NumeralError),
        (c.push token).failure? = some (.numeral e) ↔
          e = .tooLong ∧ ∃ raw ∈ c.referenceTexts token, ¬ DecimalsReadable raw := by
  have htext : ∀ state, (∃ s, decodeText state t = .ok s) ↔
      (state.allowsReferences = true → DecimalsReadable t) := by
    intro state
    rw [Except.exists_eq_ok_iff fun e => decodeText_eq_error_iff]
    exact not_and_not_right
  have hvalue : (∃ s, decodeAttributeValue t = .ok s) ↔ DecimalsReadable t := by
    rw [Except.exists_eq_ok_iff fun e => decodeAttributeValue_eq_error_iff, not_not]
  refine ⟨Reference.exists_decode_iff, fun e => Reference.eq_tooLong_of_decode, ?_, ?_, htext, hvalue,
    fun c token e => failure?_push_eq_numeral_iff⟩
  · rintro radix mark before rest d k rfl hmark hd h
    exact Reference.decode_leadingZeros hmark hd h
  · rintro radix mark before digits after rfl hmark hne hdigits hafter hlarge h
    exact Reference.decode_beyond hmark hne hdigits hafter hlarge h

theorem not_decimalsReadable_overlongNumber : ¬ DecimalsReadable overlongNumber := by
  intro h
  have hdigits : ∀ c ∈ List.replicate Numeral.maxDigits (CodePoint.ofChar '0') ++ Text.ofString "65",
      c.isDigit = true := by
    intro c hc
    rcases List.mem_append.1 hc with hc | hc
    · rw [List.eq_of_mem_replicate hc]
      decide
    · have hlast : (Text.ofString "65").all CodePoint.isDigit = true := by decide
      exact List.all_eq_true.1 hlast c hc
  have hnumber : overlongNumber = CodePoint.ofChar '&' :: CodePoint.ofChar '#' ::
      (List.replicate Numeral.maxDigits (CodePoint.ofChar '0') ++ Text.ofString "65") := by
    rw [overlongNumber, numberStart, List.cons_append, List.cons_append, List.nil_append]
  have hlength := h _ hdigits (hnumber ▸ List.infix_refl _)
  rw [List.length_append, List.length_replicate] at hlength
  exact absurd hlength (Nat.not_le_of_lt (Nat.lt_add_of_pos_right (by decide)))

/-- A number that zeros make unreadable. -/
theorem decode_overlongNumber :
    decode false (numberStart [] ++ Text.ofString "65") = .ok (Text.ofString "A") ∧
      decode false overlongNumber = .error .tooLong ∧ decode true overlongNumber = .error .tooLong ∧
      decodeText .data overlongNumber = .error .tooLong ∧
      decodeAttributeValue overlongNumber = .error .tooLong ∧
      (empty.push overlongChunk).failure? = some (.numeral .tooLong) ∧
      (empty.push (.startTag [] [⟨[], overlongNumber⟩] false)).failure? =
        some (.numeral .tooLong) := by
  have h := not_decimalsReadable_overlongNumber
  refine ⟨by decide +kernel, Reference.decode_of_unreadable h, Reference.decode_of_unreadable h,
    decodeText_eq_error_iff.2 ⟨rfl, rfl, h⟩, decodeAttributeValue_eq_error_iff.2 ⟨rfl, h⟩, ?_, ?_⟩
  · exact failure?_push_eq_numeral_iff.2 ⟨rfl, overlongNumber, List.mem_singleton_self _, h⟩
  · exact failure?_push_eq_numeral_iff.2 ⟨rfl, overlongNumber, List.mem_singleton_self _, h⟩

end Totality

/-! ## What is left behind -/

section Remains

/-- A chunk that fails stands raw behind the text at the tail. -/
theorem tokens_pushText_of_failure {chunk : TextChunk} (h : (c.pushText chunk).failure? = some e) :
    (c.pushText chunk).collector.tokens =
      c.settled ++ [.text (c.currentText.data ++ chunk.text)] := by
  rcases pushText_cases c chunk with ⟨-, hfail, -⟩ | ⟨-, -, -, -, hcollector⟩ | ⟨-, -, -, hfail, -⟩
  · rw [hfail] at h
    cases h
  · rw [hcollector]
    rfl
  · rw [hfail] at h
    cases h

/-- A text behind the one at the tail makes no difference only if there is one at the tail and nothing
in the other. -/
theorem settled_append_eq_tokens_iff {t : Text} :
    c.settled ++ [.text (c.currentText.data ++ t)] = c.tokens ↔ c.tail ≠ none ∧ t = [] := by
  cases htail : c.tail with
  | none =>
    rw [tokens_of_none htail]
    simp
  | some tail =>
    have hcurrent : c.currentText = tail := by rw [currentText, htail]; rfl
    rw [tokens_of_some htail, hcurrent]
    simp

/-- **A failed push leaves the tokens alone, unless it is a chunk**: it then stands raw behind the
text at the tail, which is as it was only if there is nothing in the chunk. -/
theorem tokens_push_of_failure (h : (c.push t).failure? = some e) :
    ((∃ typeName, t = .foreign typeName ∧ e = .unsupported typeName) ∨
        e = .numeral .tooLong ∧ ∃ raw ∈ c.referenceTexts t, ¬ DecimalsReadable raw) ∧
      (t.isText = false → (c.push t).collector.tokens = c.tokens) ∧
      ∀ chunk, t = .text chunk →
        (c.push t).collector.tokens = c.settled ++ [.text (c.currentText.data ++ chunk.text)] ∧
          ((c.push t).collector.tokens = c.tokens ↔ c.tail ≠ none ∧ chunk.text = []) := by
  refine ⟨failure?_push_eq_some_iff.1 h, ?_, ?_⟩
  · intro ht
    have htoken : tokenOf t = .error e := (failure?_push_of_not_text ht).1 h
    rw [(push_of_tokenOf_error ht htoken).2]
    rfl
  · rintro chunk rfl
    have htokens := tokens_pushText_of_failure h
    refine ⟨htokens, ?_⟩
    rw [push, htokens]
    exact settled_append_eq_tokens_iff

/-- A chunk that fails behind a text. -/
theorem tokens_push_of_failure_behindText :
    (collectorWithText.push overlongChunk).failure? = some (.numeral .tooLong) ∧
      (collectorWithText.push overlongChunk).collector.tokens =
        [.text (Text.ofString "a" ++ overlongNumber)] := by
  have htail : collectorWithText = ⟨[], some ⟨Text.ofString "a", 1, false⟩, 0⟩ := by decide +kernel
  have hraw : overlongNumber ∈ collectorWithText.referenceTexts overlongChunk := by
    rw [htail]
    exact List.mem_singleton_self _
  have hfail : (collectorWithText.push overlongChunk).failure? = some (.numeral .tooLong) :=
    failure?_push_eq_numeral_iff.2 ⟨rfl, _, hraw, not_decimalsReadable_overlongNumber⟩
  obtain ⟨-, -, htext⟩ := tokens_push_of_failure hfail
  refine ⟨hfail, (htext _ rfl).1.trans ?_⟩
  rw [htail]
  rfl

/-- A chunk that fails is a token more. -/
theorem tokens_push_overlongChunk :
    (empty.push overlongChunk).failure? = some (.numeral .tooLong) ∧ empty.tokens = [] ∧
      (empty.push overlongChunk).collector.tokens = [.text overlongNumber] := by
  have hdecode : decodeText .data overlongNumber = .error .tooLong :=
    decodeText_eq_error_iff.2 ⟨rfl, rfl, not_decimalsReadable_overlongNumber⟩
  obtain ⟨hfail, hcollector⟩ :=
    @pushText_of_error empty ⟨overlongNumber, .data, true⟩ rfl _ hdecode
  refine ⟨hfail, rfl, ?_⟩
  rw [overlongChunk, push, hcollector]
  rfl

end Remains

end Collector

end TokenConformance
