import TokenConformance.Proofs.Collector.Faithful
import TokenConformance.Proofs.Collector.Invariant
import TokenConformance.Proofs.Collector.Reading
import TokenConformance.Proofs.Reference.Nulls

/-!
# Nulls in what is collected — none but in raw text

No field of a token has a null in it (`zero_notMem_of_tokenOf`).  A text comes from a maximal run of
chunks among the pushes (`textRuns`); what its cursor has passed has no null as long as each node of
the run was closed where nulls are replaced, and behind a closed node the cursor stands at the end
(`TailSafe`).  `Safe pushes c` says so of a whole collector, after pushes of which any may have failed:
one push keeps it (`Safe.push`), so it holds after every stream (`Safe.pushEach`).
-/

namespace TokenConformance

/-! ## Definitions -/

section Defs

/-- The data of a text. -/
def Token.textData? : Token → Option Text
  | .text data => some data
  | _ => none

namespace Collector

/-- The pushes of stream tokens one after another, each with its failure if it has one. -/
def log (c : Collector) : List StreamToken → List (StreamToken × Option PushError)
  | [] => []
  | t :: ts => (t, (c.push t).failure?) :: (c.push t).collector.log ts

/-- The maximal runs of chunks among pushes. -/
def textRuns (pushes : List (StreamToken × Option PushError)) :
    List (List (StreamToken × Option PushError)) :=
  (pushes.splitBy fun p q => p.1.isText && q.1.isText).filter fun run => run.all fun p => p.1.isText

/-- Each node that a run of chunks closes, it closes with a chunk of one of the kinds. -/
def ClosesIn (states : List TokenizerState) (run : List (StreamToken × Option PushError)) : Prop :=
  ∀ chunk, (.text chunk, none) ∈ run → chunk.isLast = true → chunk.state ∈ states

/-- The last push of a run of chunks has closed its node. -/
def EndsClosed (run : List (StreamToken × Option PushError)) : Prop :=
  ∃ chunk, run.getLast? = some (.text chunk, none) ∧ chunk.isLast = true

/-- What the cursor has passed in the text of a run. -/
structure TailSafe (run : List (StreamToken × Option PushError)) (tail : TailText) : Prop where
  decoded : ClosesIn nullReplacingStates run → 0 ∉ tail.data.take tail.decodedUntil
  atEnd : EndsClosed run → tail.decodedUntil = tail.data.length

/-- The text of a run has no null in it if all nodes of the run were closed where nulls are
replaced. -/
def RunSafe (run : List (StreamToken × Option PushError)) (data : Text) : Prop :=
  EndsClosed run → ClosesIn nullReplacingStates run → 0 ∉ data

/-- Where nulls may be in a collector after pushes: the chunks at their end are its text at the
tail. -/
structure Safe (pushes : List (StreamToken × Option PushError)) (c : Collector) : Prop where
  fields : ∀ t ∈ c.tokens, ∀ x ∈ t.fields, 0 ∉ x
  cursor : ∃ failures, c.Decoded failures
  split : ∃ before run, pushes = before ++ run ∧
    (∀ p ∈ before.getLast?, p.1.isText = false) ∧ (∀ p ∈ run, p.1.isText = true) ∧
    List.Forall₂ RunSafe (textRuns before) (c.settled.filterMap Token.textData?) ∧
    (c.tail = none ↔ run = []) ∧ TailSafe run c.currentText

end Collector

end Defs

namespace Collector

variable {c : Collector} {t : StreamToken} {token : Token}

/-! ## Fields -/

section Fields

theorem zero_notMem_of_decodeAttributes {attributes : List Attribute} {m : OrderedMap Text Text}
    (h : decodeAttributes attributes = .ok m) : ∀ p ∈ m.entries, 0 ∉ p.1 ∧ 0 ∉ p.2 := by
  obtain ⟨pairs, hpairs, hm⟩ := Except.bind_eq_ok_iff.1 h
  cases hm
  intro p hp
  have hmem : p ∈ pairs := List.mem_reverse.1 (OrderedMap.mem_of_mem_entries_ofList hp)
  obtain ⟨a, -, ha⟩ := Except.exists_of_mem_mapM hpairs hmem
  obtain ⟨value, hvalue, hpair⟩ := Except.bind_eq_ok_iff.1 ha
  cases hpair
  exact ⟨zero_notMem_replaceNulls a.name, zero_notMem_of_decodeAttributeValue hvalue⟩

theorem zero_notMem_map_replaceNulls (field : Option Text) :
    ∀ x ∈ (field.map Text.replaceNulls).toList, 0 ∉ x := by
  intro x hx
  rw [Option.mem_toList] at hx
  obtain ⟨t, -, rfl⟩ := Option.map_eq_some_iff.1 hx
  exact zero_notMem_replaceNulls t

/-- Whatever a stream token other than text stands for, there is no null in its fields. -/
theorem zero_notMem_of_tokenOf (ht : t.isText = false) (h : tokenOf t = .ok token) :
    token.textData? = none ∧ ∀ x ∈ token.fields, 0 ∉ x := by
  cases t with
  | text chunk => cases ht
  | comment data =>
    cases h
    refine ⟨rfl, ?_⟩
    intro x hx
    rw [List.mem_singleton.1 hx]
    exact zero_notMem_replaceNulls data
  | startTag name attributes selfClosing =>
    rw [tokenOf] at h
    cases hdecode : decodeAttributes attributes with
    | error e =>
      rw [hdecode] at h
      cases h
    | ok m =>
      rw [hdecode] at h
      cases h
      have hm := zero_notMem_of_decodeAttributes hdecode
      refine ⟨rfl, ?_⟩
      intro x hx
      rcases List.mem_append.1 hx with hx | hx
      · rcases List.mem_cons.1 hx with rfl | hx
        · exact zero_notMem_replaceNulls name
        · obtain ⟨p, hp, rfl⟩ := List.mem_map.1 hx
          exact (hm p hp).1
      · obtain ⟨p, hp, rfl⟩ := List.mem_map.1 hx
        exact (hm p hp).2
  | endTag name attributes selfClosing =>
    cases h
    refine ⟨rfl, ?_⟩
    intro x hx
    rw [List.mem_singleton.1 hx]
    exact zero_notMem_replaceNulls name
  | doctype name publicId systemId forceQuirks =>
    cases h
    refine ⟨rfl, ?_⟩
    intro x hx
    rcases List.mem_append.1 hx with hx | hx
    · rcases List.mem_append.1 hx with hx | hx
      · exact zero_notMem_map_replaceNulls name x hx
      · exact zero_notMem_map_replaceNulls publicId x hx
    · exact zero_notMem_map_replaceNulls systemId x hx
  | foreign typeName => cases h

end Fields

/-! ## Runs -/

section Runs

variable {before run : List (StreamToken × Option PushError)} {p : StreamToken × Option PushError}
  {tail : TailText}

theorem textRuns_append_run (hb : ∀ p ∈ before.getLast?, p.1.isText = false) (hne : run ≠ [])
    (hrun : ∀ p ∈ run, p.1.isText = true) : textRuns (before ++ run) = textRuns before ++ [run] := by
  have hall : (run.all fun p => p.1.isText) = true := List.all_eq_true.2 hrun
  have hcut := Reading.splitBy_append_run (p := fun q : StreamToken × Option PushError => q.1.isText)
    hb hne hrun
  unfold textRuns
  rw [hcut, List.filter_append, List.filter_singleton, hall]
  rfl

theorem textRuns_concat_other (hp : p.1.isText = false) :
    textRuns (before ++ [p]) = textRuns before := by
  have hall : ([p].all fun p => p.1.isText) = false := by simp [hp]
  have hcut := Reading.splitBy_concat (p := fun q : StreamToken × Option PushError => q.1.isText)
    (a := p) (fun q (_ : q ∈ before.getLast?) => by rw [hp, Bool.and_false])
  unfold textRuns
  rw [hcut, List.filter_append, List.filter_singleton, hall]
  exact List.append_nil _

theorem ClosesIn.of_concat {states : List TokenizerState} (h : ClosesIn states (run ++ [p])) :
    ClosesIn states run :=
  fun chunk hc => h chunk (List.mem_append_left _ hc)

theorem tailSafe_nil : TailSafe [] ⟨[], 0, false⟩ := by
  refine ⟨fun _ => List.not_mem_nil, ?_⟩
  rintro ⟨chunk, h, -⟩
  cases h

/-- A push that closes no node leaves what the cursor has passed. -/
theorem TailSafe.concat (h : TailSafe run tail) (hp : ∀ chunk, p = (.text chunk, none) →
    chunk.isLast = false) (hle : tail.decodedUntil ≤ tail.data.length) (raw : Text) (isOpen : Bool) :
    TailSafe (run ++ [p]) ⟨tail.data ++ raw, tail.decodedUntil, isOpen⟩ := by
  constructor
  · intro hcloses
    rw [List.take_append_of_le_length hle]
    exact h.decoded hcloses.of_concat
  · rintro ⟨chunk, hlast, hchunk⟩
    rw [List.getLast?_concat, Option.some.injEq] at hlast
    rw [hp chunk hlast] at hchunk
    cases hchunk

/-- The last chunk of a node has the rest of the text decoded, by the rules of its kind. -/
theorem TailSafe.concat_last (h : TailSafe run tail) {chunk : TextChunk} {decoded : Text}
    (hchunk : chunk.isLast = true) (hle : tail.decodedUntil ≤ tail.data.length)
    (hd : decodeText chunk.state ((tail.data ++ chunk.text).drop tail.decodedUntil) = .ok decoded) :
    TailSafe (run ++ [(.text chunk, none)])
      ⟨(tail.data ++ chunk.text).take tail.decodedUntil ++ decoded,
        ((tail.data ++ chunk.text).take tail.decodedUntil ++ decoded).length, false⟩ := by
  refine ⟨fun hcloses => ?_, fun _ => rfl⟩
  have hstate : chunk.state ∈ nullReplacingStates := hcloses chunk (by simp) hchunk
  rw [List.take_length, List.mem_append, not_or, List.take_append_of_le_length hle]
  exact ⟨h.decoded hcloses.of_concat, zero_notMem_of_decodeText hstate hd⟩

/-- Where all nodes are closed, the cursor has passed the whole text. -/
theorem TailSafe.runSafe (h : TailSafe run tail) : RunSafe run tail.data := by
  intro hclosed hcloses
  have hdecoded := h.decoded hcloses
  rw [h.atEnd hclosed, List.take_length] at hdecoded
  exact hdecoded

end Runs

/-! ## Pushes -/

section Pushes

variable {pushes run : List (StreamToken × Option PushError)}

/-- The log of pushes tells what was pushed, and how it failed. -/
theorem log_eq : ∀ (ts : List StreamToken) {c : Collector},
    (c.log ts).map Prod.fst = ts ∧ (c.log ts).filterMap Prod.snd = (c.pushEach ts).2
  | [], c => ⟨rfl, rfl⟩
  | t :: ts, c => by
    obtain ⟨hpushed, hfailures⟩ := log_eq ts (c := (c.push t).collector)
    rw [log, pushEach, List.map_cons, hpushed, List.filterMap_cons, hfailures]
    cases (c.push t).failure? <;> exact ⟨rfl, rfl⟩

theorem safe_empty : Safe [] empty :=
  ⟨by simp [tokens, empty], ⟨[], decoded_of_none rfl⟩,
    [], [], rfl, by simp, by simp, .nil, by simp [empty], tailSafe_nil⟩

/-- The texts of a collector are those of the runs of chunks. -/
theorem Safe.texts (h : Safe pushes c) :
    List.Forall₂ RunSafe (textRuns pushes) (c.tokens.filterMap Token.textData?) := by
  obtain ⟨before, run, rfl, hb, hrun, hsettled, htail, hsafe⟩ := h.split
  cases hc : c.tail with
  | none =>
    rw [htail.1 hc, List.append_nil, tokens_of_none hc]
    exact hsettled
  | some tail =>
    have hne : run ≠ [] := by
      intro hnil
      rw [htail.2 hnil] at hc
      cases hc
    have hcurrent : c.currentText = tail := by rw [currentText, hc]; rfl
    rw [textRuns_append_run hb hne hrun, tokens_of_some hc, List.filterMap_append]
    rw [hcurrent] at hsafe
    exact List.rel_append hsettled (.cons hsafe.runSafe .nil)

/-- Whatever becomes of a chunk, the text at the tail stays one and stays safe. -/
theorem TailSafe.pushText (h : TailSafe run c.currentText)
    (hle : c.currentText.decodedUntil ≤ c.currentText.data.length) (chunk : TextChunk) :
    ∃ tail, (c.pushText chunk).collector = ⟨c.settled, some tail, c.unterminated⟩ ∧
      TailSafe (run ++ [(.text chunk, (c.pushText chunk).failure?)]) tail := by
  rcases pushText_cases c chunk with ⟨hlast, hfail, hcollector⟩ |
    ⟨e, -, -, hfail, hcollector⟩ | ⟨decoded, hlast, hd, hfail, hcollector⟩
  · refine ⟨_, hcollector, h.concat ?_ hle _ _⟩
    intro chunk' hchunk'
    rw [hfail] at hchunk'
    cases hchunk'
    exact hlast
  · refine ⟨_, hcollector, h.concat ?_ hle _ _⟩
    intro chunk' hchunk'
    rw [hfail] at hchunk'
    cases hchunk'
  · rw [hfail]
    exact ⟨_, hcollector, h.concat_last hlast hle hd⟩

/-- A chunk makes the run at the end of the pushes one longer. -/
theorem Safe.push_text (h : Safe pushes c) (chunk : TextChunk) :
    Safe (pushes ++ [(.text chunk, (c.pushText chunk).failure?)])
      (c.pushText chunk).collector := by
  obtain ⟨failures, hcursor⟩ := h.cursor
  obtain ⟨before, run, rfl, hb, hrun, hsettled, htail, hsafe⟩ := h.split
  obtain ⟨tail, hcollector, hsafe'⟩ := hsafe.pushText hcursor.currentText_le chunk
  have hsettledFields : ∀ t ∈ c.settled, ∀ x ∈ t.fields, 0 ∉ x := by
    intro t ht
    refine h.fields t ?_
    cases hc : c.tail with
    | none => rwa [tokens_of_none hc]
    | some tail =>
      rw [tokens_of_some hc]
      exact List.mem_append_left _ ht
  have hcursor' := hcursor.pushText chunk
  rw [hcollector] at hcursor' ⊢
  refine ⟨?_, ⟨_, hcursor'⟩, before, run ++ [(.text chunk, (c.pushText chunk).failure?)],
    by simp, hb, ?_, hsettled, by simp, hsafe'⟩
  · intro t ht
    rcases List.mem_append.1 ht with ht | ht
    · exact hsettledFields t ht
    · rw [List.mem_singleton.1 ht]
      exact fun x hx => absurd hx List.not_mem_nil
  · intro p hp
    rcases List.mem_append.1 hp with hp | hp
    · exact hrun p hp
    · rw [List.mem_singleton.1 hp]
      rfl

/-- Any other token ends the run, and what it becomes has no null in it. -/
theorem Safe.push_other (h : Safe pushes c) (ht : t.isText = false) :
    Safe (pushes ++ [(t, (c.push t).failure?)]) (c.push t).collector := by
  obtain ⟨failures, hcursor⟩ := h.cursor
  obtain ⟨more, hcollector, hmore, hfields⟩ : ∃ more : List Token,
      (c.push t).collector = ⟨c.tokens ++ more, none,
        if c.hasOpenText then c.unterminated + 1 else c.unterminated⟩ ∧
      more.filterMap Token.textData? = [] ∧ ∀ s ∈ more, ∀ x ∈ s.fields, 0 ∉ x := by
    cases htoken : tokenOf t with
    | error e =>
      refine ⟨[], ?_, rfl, by simp⟩
      rw [List.append_nil]
      exact (push_of_tokenOf_error ht htoken).2
    | ok token =>
      obtain ⟨hdata, hnull⟩ := zero_notMem_of_tokenOf ht htoken
      refine ⟨[token], (push_of_tokenOf ht htoken).2, by simp [hdata], ?_⟩
      intro s hs
      rw [List.mem_singleton.1 hs]
      exact hnull
  have hcursor' := hcursor.push t
  rw [hcollector] at hcursor' ⊢
  refine ⟨?_, ⟨_, hcursor'⟩, pushes ++ [(t, (c.push t).failure?)], [], by simp, ?_, by simp, ?_,
    by simp, tailSafe_nil⟩
  · intro s hs
    rcases List.mem_append.1 hs with hs | hs
    · exact h.fields s hs
    · exact hfields s hs
  · intro p hp
    rw [List.getLast?_concat] at hp
    cases hp
    exact ht
  · rw [textRuns_concat_other ht, List.filterMap_append, hmore, List.append_nil]
    exact h.texts

/-- **The step**: a push brings no null where none may be, a failed one too. -/
theorem Safe.push (h : Safe pushes c) (t : StreamToken) :
    Safe (pushes ++ [(t, (c.push t).failure?)]) (c.push t).collector := by
  cases ht : t.isText with
  | true =>
    cases t with
    | text chunk => exact h.push_text chunk
    | _ => cases ht
  | false => exact h.push_other ht

/-- **The run**: nor do any pushes. -/
theorem Safe.pushEach : ∀ (ts : List StreamToken) {c : Collector}
    {pushes : List (StreamToken × Option PushError)},
    Safe pushes c → Safe (pushes ++ c.log ts) (c.pushEach ts).1
  | [], c, pushes, h => by
    rw [log, List.append_nil]
    exact h
  | t :: ts, c, pushes, h => by
    have ih := Safe.pushEach ts (h.push t)
    rw [List.append_assoc] at ih
    exact ih

/-- **No null is collected** but in raw text: no field of a token has one, and no text all of whose
nodes were closed where nulls are replaced. -/
theorem zero_notMem_pushEach (ts : List StreamToken) :
    (∀ t ∈ (empty.pushEach ts).1.tokens, ∀ x ∈ t.fields, 0 ∉ x) ∧
      List.Forall₂ (fun run data => EndsClosed run → ClosesIn nullReplacingStates run → 0 ∉ data)
        (textRuns (empty.log ts)) ((empty.pushEach ts).1.tokens.filterMap Token.textData?) := by
  have hsafe := Safe.pushEach ts safe_empty
  rw [List.nil_append] at hsafe
  exact ⟨hsafe.fields, hsafe.texts⟩

/-- A null in the source and two references to zero are three replacement characters. -/
example : (empty.pushAll [.text ⟨0 :: Text.ofString "&#x00;&#0", .rcdata, true⟩]).collector.tokens =
    [.text [.replacement, .replacement, .replacement]] := by
  decide +kernel

end Pushes

end Collector

end TokenConformance
