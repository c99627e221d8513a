import TokenConformance.Collector

/-!
# Pushing — what one stream token does to a collector

A chunk lengthens the text at the tail (`pushText_cases`), and any other token closes the text and
stands behind it (`push_of_tokenOf`).  Pushing a stream is pushing its parts one after another
(`pushAll_append`).
-/

namespace TokenConformance

/-- Whether a stream token is a chunk of text. -/
def StreamToken.isText : StreamToken → Bool
  | .text _ => true
  | _ => false

/-! ### Kinds of text -/

theorem decodeText_data (t : Text) : decodeText .data t = Reference.decode false t := rfl

theorem decodeText_rcdata (t : Text) :
    decodeText .rcdata t = Reference.decode false t.replaceNulls := rfl

theorem decodeText_rawtext (t : Text) : decodeText .rawtext t = .ok t.replaceNulls := rfl

namespace Collector

/-! ### Tokens -/

theorem tokens_of_none {c : Collector} (h : c.tail = none) : c.tokens = c.settled := by
  rw [tokens, h]

theorem tokens_of_some {c : Collector} {tail : TailText} (h : c.tail = some tail) :
    c.tokens = c.settled ++ [.text tail.data] := by
  rw [tokens, h]

/-! ### Text -/

section Text

/-- The text that a chunk is added to: the one at the tail, or a fresh one. -/
def currentText (c : Collector) : TailText := c.tail.getD ⟨[], 0, false⟩

variable {c : Collector} {chunk : TextChunk}

/-- A chunk that is not the last of its node leaves the text open and raw. -/
theorem pushText_of_not_last (h : chunk.isLast = false) :
    (c.pushText chunk).failure? = none ∧
      (c.pushText chunk).collector = ⟨c.settled,
        some ⟨c.currentText.data ++ chunk.text, c.currentText.decodedUntil, true⟩,
        c.unterminated⟩ := by
  unfold pushText currentText
  rw [h]
  cases c.tail <;> exact ⟨rfl, rfl⟩

/-- The last chunk of a node has the raw part of the text decoded. -/
theorem pushText_of_last (h : chunk.isLast = true) {decoded : Text}
    (hd : decodeText chunk.state
      ((c.currentText.data ++ chunk.text).drop c.currentText.decodedUntil) = .ok decoded) :
    (c.pushText chunk).failure? = none ∧
      (c.pushText chunk).collector = ⟨c.settled,
        some ⟨(c.currentText.data ++ chunk.text).take c.currentText.decodedUntil ++ decoded,
          ((c.currentText.data ++ chunk.text).take c.currentText.decodedUntil ++ decoded).length,
          false⟩,
        c.unterminated⟩ := by
  unfold pushText currentText at *
  rw [h]
  cases hc : c.tail with
  | none =>
    rw [hc] at hd
    simp only [Option.getD_none, List.nil_append, List.drop_zero] at hd
    simp [hd]
  | some tail =>
    rw [hc] at hd
    simp only [Option.getD_some] at hd
    simp [hd]

/-- Where the raw part cannot be decoded, it stays raw. -/
theorem pushText_of_error (h : chunk.isLast = true) {e : NumeralError}
    (hd : decodeText chunk.state
      ((c.currentText.data ++ chunk.text).drop c.currentText.decodedUntil) = .error e) :
    (c.pushText chunk).failure? = some (.numeral e) ∧
      (c.pushText chunk).collector = ⟨c.settled,
        some { c.currentText with data := c.currentText.data ++ chunk.text }, c.unterminated⟩ := by
  unfold pushText currentText at *
  rw [h]
  cases hc : c.tail with
  | none =>
    rw [hc] at hd
    simp only [Option.getD_none, List.nil_append, List.drop_zero] at hd
    simp [hd]
  | some tail =>
    rw [hc] at hd
    simp only [Option.getD_some] at hd
    simp [hd]

/-- **What a chunk does**: it leaves the node open, or is the last of its node, which then is decoded
or fails to be. -/
theorem pushText_cases (c : Collector) (chunk : TextChunk) :
    let raw := (c.currentText.data ++ chunk.text).drop c.currentText.decodedUntil
    (chunk.isLast = false ∧ (c.pushText chunk).failure? = none ∧
      (c.pushText chunk).collector = ⟨c.settled,
        some ⟨c.currentText.data ++ chunk.text, c.currentText.decodedUntil, true⟩,
        c.unterminated⟩) ∨
    (∃ e, chunk.isLast = true ∧ decodeText chunk.state raw = .error e ∧
      (c.pushText chunk).failure? = some (.numeral e) ∧
      (c.pushText chunk).collector = ⟨c.settled,
        some { c.currentText with data := c.currentText.data ++ chunk.text }, c.unterminated⟩) ∨
    (∃ decoded, chunk.isLast = true ∧ decodeText chunk.state raw = .ok decoded ∧
      (c.pushText chunk).failure? = none ∧
      (c.pushText chunk).collector = ⟨c.settled,
        some ⟨(c.currentText.data ++ chunk.text).take c.currentText.decodedUntil ++ decoded,
          ((c.currentText.data ++ chunk.text).take c.currentText.decodedUntil ++ decoded).length,
          false⟩,
        c.unterminated⟩) := by
  intro raw
  cases hlast : chunk.isLast with
  | false => exact .inl ⟨rfl, pushText_of_not_last hlast⟩
  | true =>
    cases hd : decodeText chunk.state raw with
    | error e => exact .inr (.inl ⟨e, rfl, rfl, pushText_of_error hlast hd⟩)
    | ok decoded => exact .inr (.inr ⟨decoded, rfl, rfl, pushText_of_last hlast hd⟩)

end Text

/-! ### Other tokens -/

section Other

variable {c : Collector} {t : StreamToken}

theorem push_of_tokenOf (ht : t.isText = false) {token : Token} (h : tokenOf t = .ok token) :
    (c.push t).failure? = none ∧
      (c.push t).collector = ⟨c.tokens ++ [token], none,
        if c.hasOpenText then c.unterminated + 1 else c.unterminated⟩ := by
  have hpush : c.push t = ⟨{ c.closeText.1 with settled := c.closeText.1.settled ++ [token] },
      c.closeText.2 ++ [.collected token], none⟩ := by
    cases t with
    | text chunk => exact absurd ht (by simp [StreamToken.isText])
    | _ => simp only [push, h]
  rw [hpush]
  refine ⟨rfl, ?_⟩
  unfold closeText hasOpenText
  cases hc : c.tail with
  | none => simp [tokens_of_none hc, hc]
  | some tail => simp

/-- A value that stands for no token closes the text before it fails. -/
theorem push_of_tokenOf_error (ht : t.isText = false) {e : PushError} (h : tokenOf t = .error e) :
    (c.push t).failure? = some e ∧
      (c.push t).collector = ⟨c.tokens, none,
        if c.hasOpenText then c.unterminated + 1 else c.unterminated⟩ := by
  have hpush : c.push t = ⟨c.closeText.1, c.closeText.2, some e⟩ := by
    cases t with
    | text chunk => exact absurd ht (by simp [StreamToken.isText])
    | _ => simp only [push, h]
  rw [hpush]
  refine ⟨rfl, ?_⟩
  obtain ⟨settled, tail, unterminated⟩ := c
  cases tail <;> rfl

/-- Whatever is no text closes the text and leaves the tokens in front of what it adds. -/
theorem exists_push_of_not_text (c : Collector) (ht : t.isText = false) :
    ∃ added, (c.push t).collector = ⟨c.tokens ++ added, none,
      if c.hasOpenText then c.unterminated + 1 else c.unterminated⟩ := by
  cases htoken : tokenOf t with
  | error e =>
    refine ⟨[], ?_⟩
    rw [List.append_nil]
    exact (push_of_tokenOf_error ht htoken).2
  | ok token => exact ⟨[token], (push_of_tokenOf ht htoken).2⟩

end Other

/-! ### Streams -/

section Streams

variable {c : Collector}

theorem pushAll_cons {t : StreamToken} (h : (c.push t).failure? = none) (ts : List StreamToken) :
    (c.pushAll (t :: ts)).failure? = ((c.push t).collector.pushAll ts).failure? ∧
      (c.pushAll (t :: ts)).collector = ((c.push t).collector.pushAll ts).collector := by
  rw [pushAll]
  simp [h]

theorem pushAll_cons_text {chunk : TextChunk} (h : (c.pushText chunk).failure? = none)
    (ts : List StreamToken) :
    (c.pushAll (.text chunk :: ts)).failure? = ((c.pushText chunk).collector.pushAll ts).failure? ∧
      (c.pushAll (.text chunk :: ts)).collector =
        ((c.pushText chunk).collector.pushAll ts).collector :=
  pushAll_cons (t := .text chunk) h ts

theorem failure?_pushAll_cons {t : StreamToken} {ts : List StreamToken}
    (h : (c.pushAll (t :: ts)).failure? = none) : (c.push t).failure? = none := by
  cases hf : (c.push t).failure? with
  | none => rfl
  | some e =>
    rw [pushAll] at h
    simp [hf] at h

theorem pushAll_append : ∀ (ts us : List StreamToken) {c : Collector},
    (c.pushAll ts).failure? = none →
      (c.pushAll (ts ++ us)).failure? = ((c.pushAll ts).collector.pushAll us).failure? ∧
        (c.pushAll (ts ++ us)).collector = ((c.pushAll ts).collector.pushAll us).collector
  | [], us, c, _ => ⟨rfl, rfl⟩
  | t :: ts, us, c, h => by
    have ht := failure?_pushAll_cons h
    obtain ⟨h1, h2⟩ := pushAll_cons ht ts
    obtain ⟨h3, h4⟩ := pushAll_cons ht (ts ++ us)
    rw [h1] at h
    obtain ⟨h5, h6⟩ := pushAll_append ts us h
    rw [List.cons_append, h2, h3, h4]
    exact ⟨h5, h6⟩

end Streams

end Collector

end TokenConformance
