import TokenConformance.Proofs.Collector.TextState

/-!
# The invariant of the text state — the cursor, and what a push leaves alone

`Decoded failures c`: the cursor in the last text of a collector stands within its data, and behind
all of it when no node goes on and no decoding has failed so far.  One push keeps this
(`Decoded.push`), so it holds after any pushes, failed ones included (`Decoded.pushEach`).

A push only adds to the tokens, and to the part of the current text that is not decoded yet
(`extends_push`).
-/

namespace TokenConformance

/-! ## Definitions -/

section Defs

namespace FlatCollector

/-- The text state fits the list of tokens after pushes with the given failures. -/
structure Fits (failures : List PushError) (s : FlatCollector) : Prop where
  /-- Without a current text nothing is open and nothing is decoded. -/
  closed : s.text.place = none → s.text.isOpen = false ∧ s.text.decodedUntil = 0
  /-- The current text is the last token, and the cursor stands within its data. -/
  last : ∀ i, s.text.place = some i → i + 1 = s.tokens.length ∧
    ∃ data, s.tokens[i]? = some (.text data) ∧ s.text.decodedUntil ≤ data.length ∧
      ((∀ e, .numeral e ∉ failures) → s.text.isOpen = false → s.text.decodedUntil = data.length)

/-- All tokens of `s` are those of `s'` in the same places.  Of the current text that goes for what
is decoded. -/
structure Extends (s s' : FlatCollector) : Prop where
  length_le : s.tokens.length ≤ s'.tokens.length
  other : ∀ i, i < s.tokens.length → s.text.place ≠ some i → s'.tokens[i]? = s.tokens[i]?
  decoded : ∀ i data, s.text.place = some i → s.tokens[i]? = some (.text data) →
    ∃ data', s'.tokens[i]? = some (.text data') ∧
      data'.take s.text.decodedUntil = data.take s.text.decodedUntil

end FlatCollector

/-- The cursor stands within the data of the last text, and behind all of it when no node goes on
and no decoding is among the failures. -/
structure Collector.Decoded (failures : List PushError) (c : Collector) : Prop where
  cursor_le : ∀ tail, c.tail = some tail → tail.decodedUntil ≤ tail.data.length
  cursor_eq : (∀ e, .numeral e ∉ failures) → ∀ tail, c.tail = some tail → tail.isOpen = false →
    tail.decodedUntil = tail.data.length

end Defs

namespace Collector

variable {c : Collector} {failures : List PushError}

/-! ## The cursor -/

section Cursor

theorem decoded_of_none (h : c.tail = none) : c.Decoded failures := by
  constructor <;> simp [h]

theorem Decoded.currentText_le (h : c.Decoded failures) :
    c.currentText.decodedUntil ≤ c.currentText.data.length := by
  unfold currentText
  cases htail : c.tail with
  | none => exact Nat.zero_le _
  | some tail => exact h.cursor_le tail htail

/-- A chunk only lengthens what stands behind the cursor, until the node is decoded as a whole. -/
theorem Decoded.pushText (h : c.Decoded failures) (chunk : TextChunk) :
    (c.pushText chunk).collector.Decoded (failures ++ (c.pushText chunk).failure?.toList) := by
  have hle : c.currentText.decodedUntil ≤ (c.currentText.data ++ chunk.text).length := by
    have := h.currentText_le
    rw [List.length_append]
    omega
  rcases pushText_cases c chunk with ⟨-, -, hcollector⟩ | ⟨e, -, -, hfail, hcollector⟩ |
    ⟨decoded, -, -, -, hcollector⟩
  · rw [hcollector]
    constructor
    · rintro tail ⟨⟩
      exact hle
    · rintro - tail ⟨⟩ hopen
      cases hopen
  · rw [hfail, hcollector]
    constructor
    · rintro tail ⟨⟩
      exact hle
    · intro hclean
      exact absurd (List.mem_append_right _ (List.mem_singleton_self _)) (hclean e)
  · rw [hcollector]
    constructor
    · rintro tail ⟨⟩
      exact Nat.le_refl _
    · rintro - tail ⟨⟩ -
      rfl

/-- **The step**: a push keeps the cursor right, a failed one too. -/
theorem Decoded.push (h : c.Decoded failures) (t : StreamToken) :
    (c.push t).collector.Decoded (failures ++ (c.push t).failure?.toList) := by
  cases ht : t.isText with
  | true =>
    cases t with
    | text chunk => exact h.pushText chunk
    | _ => cases ht
  | false =>
    obtain ⟨added, hcollector⟩ := exists_push_of_not_text c ht
    rw [hcollector]
    exact decoded_of_none rfl

/-- **The run**: so do any pushes. -/
theorem Decoded.pushEach : ∀ (ts : List StreamToken) {c : Collector} {failures : List PushError},
    c.Decoded failures → (c.pushEach ts).1.Decoded (failures ++ (c.pushEach ts).2)
  | [], c, failures, h => by
    rw [Collector.pushEach, List.append_nil]
    exact h
  | t :: ts, c, failures, h => by
    rw [Collector.pushEach, ← List.append_assoc]
    exact Decoded.pushEach ts (h.push t)

/-- The text state of a collector whose cursor is right fits its tokens. -/
theorem Decoded.fits (h : c.Decoded failures) : c.flatten.Fits failures := by
  obtain ⟨settled, tail, unterminated⟩ := c
  cases tail with
  | none =>
    refine ⟨fun _ => ⟨rfl, rfl⟩, ?_⟩
    rintro i ⟨⟩
  | some tail =>
    refine ⟨nofun, ?_⟩
    rintro i ⟨⟩
    refine ⟨?_, tail.data, List.getElem?_concat_length, h.cursor_le tail rfl, fun hclean hopen =>
      h.cursor_eq hclean tail rfl hopen⟩
    simp [flatten, tokens]

end Cursor

/-! ## What a push leaves alone -/

section Frame

/-- Tokens behind all others leave them alone. -/
theorem extends_of_append {s : FlatCollector} {more : List Token}
    (h : s.tokens = c.tokens ++ more) : c.flatten.Extends s := by
  have hkeep : ∀ i, i < c.tokens.length → s.tokens[i]? = c.tokens[i]? := fun i hi => by
    rw [h, List.getElem?_append_left hi]
  refine ⟨?_, fun i hi _ => hkeep i hi, fun i data _ hdata => ⟨data, ?_, rfl⟩⟩
  · rw [h, List.length_append]
    exact Nat.le_add_right _ _
  · rw [hkeep i (List.getElem?_eq_some_iff.1 hdata).1]
    exact hdata

/-- So does another text in the place of the current one, where what is decoded begins it. -/
theorem extends_of_tail {s : FlatCollector} {tail : TailText} {data : Text}
    (htail : c.tail = some tail) (h : s.tokens = c.settled ++ [.text data])
    (hdata : data.take tail.decodedUntil = tail.data.take tail.decodedUntil) :
    c.flatten.Extends s := by
  obtain ⟨settled, tail', unterminated⟩ := c
  cases htail
  have hflat : (flatten ⟨settled, some tail, unterminated⟩).tokens = settled ++ [.text tail.data] :=
    rfl
  refine ⟨?_, fun i hi hplace => ?_, ?_⟩
  · rw [hflat, h, List.length_append, List.length_append]
    exact Nat.le_refl _
  · have hi' : i < settled.length := by
      rw [hflat, List.length_append, List.length_singleton] at hi
      have hne : i ≠ settled.length := fun e => hplace (e ▸ rfl)
      omega
    rw [hflat, h, List.getElem?_append_left hi', List.getElem?_append_left hi']
  · rintro i data' ⟨⟩ hdata'
    rw [hflat, List.getElem?_concat_length] at hdata'
    cases hdata'
    exact ⟨data, by rw [h, List.getElem?_concat_length], hdata⟩

theorem extends_pushText (h : c.Decoded failures) (chunk : TextChunk) :
    c.flatten.Extends (c.pushText chunk).collector.flatten := by
  -- in each case the data of the last text begins with what is decoded
  obtain ⟨data, htokens, hdata⟩ : ∃ data,
      (c.pushText chunk).collector.tokens = c.settled ++ [.text data] ∧
        data.take c.currentText.decodedUntil =
          (c.currentText.data ++ chunk.text).take c.currentText.decodedUntil := by
    rcases pushText_cases c chunk with ⟨-, -, hcollector⟩ | ⟨e, -, -, -, hcollector⟩ |
      ⟨decoded, -, -, -, hcollector⟩
    · rw [hcollector]
      exact ⟨_, rfl, rfl⟩
    · rw [hcollector]
      exact ⟨_, rfl, rfl⟩
    · rw [hcollector]
      refine ⟨_, rfl, List.take_left' ?_⟩
      have := h.currentText_le
      rw [List.length_take, List.length_append]
      omega
  rw [List.take_append_of_le_length h.currentText_le] at hdata
  cases htail : c.tail with
  | none =>
    rw [← tokens_of_none htail] at htokens
    exact extends_of_append htokens
  | some tail =>
    have hcurrent : c.currentText = tail := by rw [currentText, htail]; rfl
    rw [hcurrent] at hdata
    exact extends_of_tail htail htokens hdata

/-- **A push leaves alone** what is settled and what is decoded, a failed one too. -/
theorem extends_push (h : c.Decoded failures) (t : StreamToken) :
    c.flatten.Extends (c.push t).collector.flatten := by
  cases ht : t.isText with
  | true =>
    cases t with
    | text chunk => exact extends_pushText h chunk
    | _ => cases ht
  | false =>
    obtain ⟨added, hcollector⟩ := exists_push_of_not_text c ht
    rw [hcollector]
    exact extends_of_append rfl

end Frame

/-! ## After any pushes -/

section Pushes

/-- **The text state fits the tokens after any pushes**, failed ones included, and each further push
leaves alone what is settled and what is decoded.  It is the state of the collector after the same
pushes, which fail for the same reasons and never for want of a current text. -/
theorem fits_pushEach (ts : List StreamToken) :
    let c := Collector.empty.pushEach ts
    let s := FlatCollector.empty.pushEach ts
    s = (c.1.flatten, c.2.map .push) ∧ s.1.Fits c.2 ∧
      ∀ t, s.1.push t = ((c.1.push t).collector.flatten, (c.1.push t).failure?.map .push) ∧
        s.1.Extends (s.1.push t).1 := by
  have hstate : FlatCollector.empty.pushEach ts =
      ((Collector.empty.pushEach ts).1.flatten, (Collector.empty.pushEach ts).2.map .push) :=
    pushEach_flatten ts (c := .empty)
  have hempty : Collector.empty.Decoded [] := decoded_of_none rfl
  have hdecoded := Decoded.pushEach ts hempty
  refine ⟨hstate, ?_, fun t => ?_⟩
  · rw [hstate]
    exact hdecoded.fits
  · rw [hstate, push_flatten]
    exact ⟨rfl, extends_push hdecoded t⟩

end Pushes

end Collector

end TokenConformance
