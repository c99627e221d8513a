import Mathlib.Data.List.Chain
import Mathlib.Data.List.Forall2
import TokenConformance.Proofs.Collector.Push
import TokenConformance.Proofs.OrderedMapLaws
import TokenConformance.Proofs.Reference.Nulls
import TokenConformance.Proofs.Token.Sameness
import TokenConformance.Run.Execute

/-!
# Faithful streams — a tokenizer that delivers the expected tokens passes

`Delivers t s`: the stream tokens `s` are a faithful delivery of the token `t`.  Ampersands in texts
and attribute values are written as references, a text is cut into chunks of one node wherever the
tokenizer likes, and attributes come in any order.  A delivery puts one more token into a collector,
the `same` as `t` (`pushAll_of_delivers`), and a text at the tail is what it leaves behind exactly
if `t` is a text, so the deliveries of tokens of which no two neighbours are texts do not run
together (`pushAll_of_forall₂`).
-/

namespace TokenConformance

/-! ## Definitions -/

section Defs

/-- The text with every ampersand written as the reference to it. -/
def Text.escapeAmpersands (t : Text) : Text :=
  t.flatMap fun c => if c = CodePoint.ofChar '&' then Text.ofString "&amp;" else [c]

namespace Token

/-- Whether a token is text. -/
def isText : Token → Bool
  | text _ => true
  | _ => false

/-- All texts of a token but the data of a text. -/
def fields : Token → List Text
  | text _ => []
  | comment data => [data]
  | startTag name attributes _ => name :: attributes.keys ++ attributes.entries.map Prod.snd
  | endTag name => [name]
  | doctype name publicId systemId _ => name.toList ++ publicId.toList ++ systemId.toList

/-- The stream tokens are a faithful delivery of the token. -/
inductive Delivers : Token → List StreamToken → Prop
  | text {data : Text} {chunks : List TextChunk} {last : TextChunk}
      (hopen : ∀ chunk ∈ chunks, chunk.isLast = false) (hlast : last.isLast = true)
      (hstate : ∀ chunk ∈ chunks ++ [last], chunk.state = .data)
      (hdata : (chunks ++ [last]).flatMap TextChunk.text = data.escapeAmpersands) :
      Delivers (.text data) ((chunks ++ [last]).map StreamToken.text)
  | comment (data : Text) : Delivers (.comment data) [.comment data]
  | startTag (name : Text) {attributes : OrderedMap Text Text} {pairs : List (Text × Text)}
      (selfClosing : Bool) (h : pairs.Perm attributes.entries) :
      Delivers (.startTag name attributes selfClosing)
        [.startTag name (pairs.map fun p => ⟨p.1, p.2.escapeAmpersands⟩) selfClosing]
  | endTag (name : Text) (attributes : List Attribute) (selfClosing : Bool) :
      Delivers (.endTag name) [.endTag name attributes selfClosing]
  | doctype (name publicId systemId : Option Text) (forceQuirks : Bool) :
      Delivers (.doctype name publicId systemId forceQuirks)
        [.doctype name publicId systemId forceQuirks]

end Token

end Defs

/-! ## Texts -/

section Texts

variable {b : Bool} {t : Text}

theorem Text.map_replaceNulls_of_notMem {field : Option Text} (h : ∀ x ∈ field, 0 ∉ x) :
    field.map Text.replaceNulls = field := by
  cases field with
  | none => rfl
  | some x => exact congrArg some (Text.replaceNulls_of_notMem (h x rfl))

theorem Text.notMem_escapeAmpersands (h : 0 ∉ t) : 0 ∉ t.escapeAmpersands := by
  intro hm
  obtain ⟨c, hc, h0⟩ := List.mem_flatMap.1 hm
  by_cases hamp : c = CodePoint.ofChar '&'
  · rw [if_pos hamp] at h0
    revert h0
    decide
  · rw [if_neg hamp, List.mem_singleton] at h0
    exact h (h0 ▸ hc)

/-- Decoding undoes the escaping of ampersands, whatever they stand in front of. -/
theorem decode_escapeAmpersands : ∀ t : Text, Reference.decode b t.escapeAmpersands = .ok t
  | [] => Reference.decode_nil
  | c :: t => by
    have ih : Reference.decode b (Text.escapeAmpersands t) = .ok t := decode_escapeAmpersands t
    by_cases hc : c = CodePoint.ofChar '&'
    · have hcons : Text.escapeAmpersands (c :: t) =
          CodePoint.ofChar '&' :: (Reference.ampersand.name ++ Text.escapeAmpersands t) := by
        rw [Text.escapeAmpersands, List.flatMap_cons, if_pos hc]
        rfl
      rw [hcons, Reference.decode_ampersand, ih, hc]
      rfl
    · have hcons : Text.escapeAmpersands (c :: t) = c :: Text.escapeAmpersands t := by
        rw [Text.escapeAmpersands, List.flatMap_cons, if_neg hc]
        rfl
      rw [hcons, Reference.decode_cons_of_ne hc, ih]
      rfl

theorem decodeAttributeValue_escapeAmpersands (h : 0 ∉ t) :
    decodeAttributeValue t.escapeAmpersands = .ok t := by
  rw [decodeAttributeValue, Text.replaceNulls_of_notMem (Text.notMem_escapeAmpersands h),
    decode_escapeAmpersands]

end Texts

namespace Collector

/-! ## Attributes -/

section Attributes

variable {pairs : List (Text × Text)} {attributes : OrderedMap Text Text}

theorem mapM_attributes_of_notMem : ∀ {pairs : List (Text × Text)},
    (∀ p ∈ pairs, 0 ∉ p.1 ∧ 0 ∉ p.2) →
      ((pairs.map fun p => (⟨p.1, p.2.escapeAmpersands⟩ : Attribute)).mapM fun a => do
        return (a.name.replaceNulls, ← decodeAttributeValue a.value)) =
        (.ok pairs : Except NumeralError (List (Text × Text)))
  | [], _ => rfl
  | (key, value) :: pairs, h => by
    obtain ⟨hkey, hvalue⟩ := h (key, value) (by simp)
    have ih := mapM_attributes_of_notMem fun p hp => h p (List.mem_cons_of_mem _ hp)
    rw [List.map_cons, List.mapM_cons, ih, decodeAttributeValue_escapeAmpersands hvalue,
      Text.replaceNulls_of_notMem hkey]
    rfl

/-- The attributes that arrive are those that were sent, in another order. -/
theorem decodeAttributes_of_perm (h : pairs.Perm attributes.entries)
    (hnull : ∀ p ∈ attributes.entries, 0 ∉ p.1 ∧ 0 ∉ p.2) :
    ∃ arrived, decodeAttributes (pairs.map fun p => ⟨p.1, p.2.escapeAmpersands⟩) = .ok arrived ∧
      attributes.similar arrived = true := by
  have hperm : pairs.reverse.Perm attributes.entries := (List.reverse_perm pairs).trans h
  have hnodup : (pairs.reverse.map Prod.fst).Nodup :=
    (hperm.map Prod.fst).nodup_iff.2 attributes.nodup
  refine ⟨firstWins pairs, ?_, ?_⟩
  · rw [decodeAttributes, mapM_attributes_of_notMem fun p hp => hnull p (h.subset hp)]
    rfl
  · refine OrderedMap.similar_of_perm ?_
    rw [firstWins, OrderedMap.entries_ofList hnodup]
    exact hperm.symm

end Attributes

/-! ## Deliveries -/

section Deliveries

variable {c : Collector}

/-- Chunks of a node that goes on are put behind the text at the tail as they are. -/
theorem pushAll_of_not_last : ∀ (chunks : List TextChunk) {c : Collector},
    (∀ chunk ∈ chunks, chunk.isLast = false) →
      (c.pushAll (chunks.map .text)).failure? = none ∧
        (c.pushAll (chunks.map .text)).collector.settled = c.settled ∧
        (c.pushAll (chunks.map .text)).collector.currentText.data =
          c.currentText.data ++ chunks.flatMap TextChunk.text ∧
        (c.pushAll (chunks.map .text)).collector.currentText.decodedUntil =
          c.currentText.decodedUntil
  | [], c, _ => ⟨rfl, rfl, (List.append_nil _).symm, rfl⟩
  | chunk :: chunks, c, h => by
    obtain ⟨hpush, hcollector⟩ := pushText_of_not_last (c := c) (h chunk (by simp))
    obtain ⟨hfail, hrest⟩ := pushAll_cons_text hpush (chunks.map .text)
    obtain ⟨ih, hsettled, hdata, huntil⟩ :=
      pushAll_of_not_last chunks (c := (c.pushText chunk).collector)
        fun x hx => h x (List.mem_cons_of_mem _ hx)
    rw [hcollector] at ih hsettled hdata huntil
    rw [List.map_cons, hfail, hrest, hcollector]
    refine ⟨ih, hsettled, ?_, huntil⟩
    rw [List.flatMap_cons, ← List.append_assoc]
    exact hdata

/-- A text is decoded when its last chunk arrives, wherever it was cut. -/
theorem pushAll_of_text {data : Text} {chunks : List TextChunk} {last : TextChunk}
    (hopen : ∀ chunk ∈ chunks, chunk.isLast = false) (hlast : last.isLast = true)
    (hstate : last.state = .data)
    (hdata : (chunks ++ [last]).flatMap TextChunk.text = data.escapeAmpersands)
    (htail : c.tail = none) :
    (c.pushAll ((chunks ++ [last]).map .text)).failure? = none ∧
      (c.pushAll ((chunks ++ [last]).map .text)).collector.tokens = c.tokens ++ [.text data] := by
  obtain ⟨hfail, hsettled, hraw, huntil⟩ := pushAll_of_not_last chunks (c := c) hopen
  have hcurrent : c.currentText = ⟨[], 0, false⟩ := by rw [currentText, htail]; rfl
  rw [hcurrent] at hraw huntil
  rw [List.map_append, List.map_singleton]
  obtain ⟨hfail', hcollector⟩ := pushAll_append _ [.text last] hfail
  rw [hfail', hcollector]
  generalize (c.pushAll (chunks.map .text)).collector = raw at *
  have hdecoded : decodeText last.state
      ((raw.currentText.data ++ last.text).drop raw.currentText.decodedUntil) = .ok data := by
    have hescaped : [] ++ chunks.flatMap TextChunk.text ++ last.text = data.escapeAmpersands := by
      rw [← hdata]
      simp
    rw [hraw, huntil, hescaped, List.drop_zero, hstate, decodeText_data, decode_escapeAmpersands]
  obtain ⟨hpush, hpushed⟩ := pushText_of_last hlast hdecoded
  obtain ⟨hfail'', hclosed⟩ := pushAll_cons_text hpush []
  rw [hfail'', hclosed, hpushed, huntil, tokens_of_none htail, ← hsettled]
  exact ⟨rfl, rfl⟩

/-- Any other token is put behind those that are there, and leaves no text open. -/
theorem pushAll_of_tokenOf {t : StreamToken} {token : Token} (ht : t.isText = false)
    (h : tokenOf t = .ok token) :
    (c.pushAll [t]).failure? = none ∧
      (c.pushAll [t]).collector.tokens = c.tokens ++ [token] ∧
      (c.pushAll [t]).collector.tail = none := by
  obtain ⟨hpush, hpushed⟩ := push_of_tokenOf (c := c) ht h
  obtain ⟨hfail, hcollector⟩ := pushAll_cons hpush []
  rw [hfail, hcollector, hpushed]
  exact ⟨rfl, rfl, rfl⟩

/-- What is delivered of a token that is no text stands for the same token. -/
theorem exists_tokenOf_of_delivers {t : Token} {s : List StreamToken} (h : t.Delivers s)
    (hnull : ∀ x ∈ t.fields, 0 ∉ x) (ht : t.isText = false) :
    ∃ u arrived, s = [u] ∧ u.isText = false ∧ tokenOf u = .ok arrived ∧
      t.same arrived = true := by
  cases h with
  | text hopen hlast hstate hdata => cases ht
  | comment data =>
    refine ⟨_, .comment data, rfl, rfl, ?_, Token.same_self _⟩
    rw [tokenOf, Text.replaceNulls_of_notMem (hnull data (by simp [Token.fields]))]
  | @startTag name attributes pairs selfClosing hperm =>
    have hentries : ∀ p ∈ attributes.entries, 0 ∉ p.1 ∧ 0 ∉ p.2 := by
      intro p hp
      have hkey : p.1 ∈ attributes.keys := List.mem_map_of_mem hp
      have hvalue : p.2 ∈ attributes.entries.map Prod.snd := List.mem_map_of_mem hp
      exact ⟨hnull p.1 (by simp [Token.fields, hkey]), hnull p.2 (by simp [Token.fields, hvalue])⟩
    obtain ⟨arrived, hdecode, hsimilar⟩ := decodeAttributes_of_perm hperm hentries
    refine ⟨_, .startTag name arrived selfClosing, rfl, rfl, ?_, ?_⟩
    · simp only [tokenOf, hdecode]
      rw [Text.replaceNulls_of_notMem (hnull name (by simp [Token.fields]))]
    · simp [Token.same, hsimilar]
  | endTag name attributes selfClosing =>
    refine ⟨_, .endTag name, rfl, rfl, ?_, Token.same_self _⟩
    rw [tokenOf, Text.replaceNulls_of_notMem (hnull name (by simp [Token.fields]))]
  | doctype name publicId systemId forceQuirks =>
    refine ⟨_, .doctype name publicId systemId forceQuirks, rfl, rfl, ?_, Token.same_self _⟩
    rw [tokenOf, Text.map_replaceNulls_of_notMem fun x hx => hnull x (by simp_all [Token.fields]),
      Text.map_replaceNulls_of_notMem fun x hx => hnull x (by simp_all [Token.fields]),
      Text.map_replaceNulls_of_notMem fun x hx => hnull x (by simp_all [Token.fields])]

/-- **The step**: a delivery puts one more token into a collector, the same as was delivered. -/
theorem pushAll_of_delivers {t : Token} {s : List StreamToken} (h : t.Delivers s)
    (hnull : ∀ x ∈ t.fields, 0 ∉ x) (htail : t.isText = true → c.tail = none) :
    (c.pushAll s).failure? = none ∧
      (∃ arrived, (c.pushAll s).collector.tokens = c.tokens ++ [arrived] ∧
        t.same arrived = true) ∧
      (t.isText = false → (c.pushAll s).collector.tail = none) := by
  cases ht : t.isText with
  | true =>
    cases h with
    | @text data chunks last hopen hlast hstate hdata =>
      obtain ⟨hfail, htokens⟩ :=
        pushAll_of_text hopen hlast (hstate last (by simp)) hdata (htail rfl)
      exact ⟨hfail, ⟨_, htokens, Token.same_self _⟩, fun h => by cases h⟩
    | _ => cases ht
  | false =>
    obtain ⟨u, arrived, rfl, hu, htoken, hsame⟩ := exists_tokenOf_of_delivers h hnull ht
    obtain ⟨hfail, htokens, hclosed⟩ := pushAll_of_tokenOf (c := c) hu htoken
    exact ⟨hfail, ⟨arrived, htokens, hsame⟩, fun _ => hclosed⟩

/-- **The run**: deliveries put the same tokens into a collector. -/
theorem pushAll_of_forall₂ : ∀ {tokens : List Token} {streams : List (List StreamToken)}
    {c : Collector}, List.Forall₂ Token.Delivers tokens streams →
    (∀ t ∈ tokens, ∀ x ∈ t.fields, 0 ∉ x) →
    tokens.IsChain (fun s t => ¬ (s.isText = true ∧ t.isText = true)) →
    (∀ t ∈ tokens.head?, t.isText = true → c.tail = none) →
    (c.pushAll streams.flatten).failure? = none ∧
      ∃ arrived, (c.pushAll streams.flatten).collector.tokens = c.tokens ++ arrived ∧
        Token.sameList tokens arrived = true
  | _, _, c, .nil, _, _, _ => ⟨rfl, [], (List.append_nil _).symm, rfl⟩
  | t :: tokens, s :: streams, c, .cons h hs, hnull, hchain, hhead => by
    obtain ⟨hfail, ⟨token, htoken, hsame⟩, hclosed⟩ :=
      pushAll_of_delivers (c := c) h (hnull t (by simp)) (hhead t rfl)
    have hhead' : ∀ t' ∈ tokens.head?, t'.isText = true → (c.pushAll s).collector.tail = none := by
      intro t' ht' htext'
      have hnot := (List.isChain_cons.1 hchain).1 t' ht'
      refine hclosed ?_
      rw [← Bool.not_eq_true]
      exact fun htext => hnot ⟨htext, htext'⟩
    obtain ⟨hfail', arrived, harrived, hsames⟩ :=
      pushAll_of_forall₂ hs (fun t' ht' => hnull t' (List.mem_cons_of_mem _ ht')) hchain.tail hhead'
    obtain ⟨hfail'', hcollector⟩ := pushAll_append s streams.flatten hfail
    rw [List.flatten_cons, hfail'', hcollector]
    refine ⟨hfail', token :: arrived, ?_, ?_⟩
    · rw [harrived, htoken, List.append_assoc]
      rfl
    · rw [Token.sameList, hsame, hsames]
      rfl

end Deliveries

/-! ## Verdicts -/

section Verdicts

variable {tokens : List Token} {streams : List (List StreamToken)}

/-- **No false failures**: a faithful stream is collected to the tokens that it delivers, and a test
that expects them passes in whatever state the tokenizer emits it. -/
theorem sameList_of_faithful (h : List.Forall₂ Token.Delivers tokens streams)
    (hnull : ∀ t ∈ tokens, ∀ x ∈ t.fields, 0 ∉ x)
    (hchain : tokens.IsChain fun s t => ¬ (s.isText = true ∧ t.isText = true)) :
    (empty.pushAll streams.flatten).failure? = none ∧
      Token.sameList tokens (empty.pushAll streams.flatten).collector.tokens = true ∧
      ∀ (options : RunOptions) (tokenizer : Tokenizer) (test : TestCase) (state : TokenizerState),
        test.expected = tokens →
          tokenizer test.input state test.lastStartTag = ⟨streams.flatten, none⟩ →
            ∃ result, Run.runState options tokenizer test state = .ok result ∧
              result.verdict = .pass := by
  obtain ⟨hfail, arrived, harrived, hsame⟩ :=
    pushAll_of_forall₂ (c := empty) h hnull hchain fun _ _ _ => rfl
  have htokens : (empty.pushAll streams.flatten).collector.tokens = arrived := harrived
  refine ⟨hfail, htokens ▸ hsame, ?_⟩
  intro options tokenizer test state hexpected hemission
  unfold Run.runState
  rw [hemission, hexpected]
  simp only [Emission.collect, hfail, htokens, hsame, Option.map_none, if_true]
  exact ⟨_, rfl, rfl⟩

/-- A text that looks like a reference, cut inside the references for its ampersands, between tags
with attributes that arrive in another order. -/
def deliveredTokens : List Token :=
  [.startTag (Text.ofString "a") ⟨[(Text.ofString "x", Text.ofString "&lt"),
      (Text.ofString "y", [])], by decide⟩ false,
    .text (Text.ofString "&amp;" ++ [0]), .endTag (Text.ofString "a")]

def deliveredStreams : List (List StreamToken) :=
  [[.startTag (Text.ofString "a") [⟨Text.ofString "y", []⟩,
      ⟨Text.ofString "x", Text.ofString "&amp;lt"⟩] false],
    [.text ⟨Text.ofString "&a", .data, false⟩, .text ⟨Text.ofString "mp;am", .data, false⟩,
      .text ⟨Text.ofString "p;" ++ [0], .data, true⟩],
    [.endTag (Text.ofString "a") [] false]]

theorem sameList_of_faithful_delivered :
    List.Forall₂ Token.Delivers deliveredTokens deliveredStreams ∧
      (empty.pushAll deliveredStreams.flatten).failure? = none ∧
      Token.sameList deliveredTokens (empty.pushAll deliveredStreams.flatten).collector.tokens =
        true := by
  have hstart := @Token.Delivers.startTag (Text.ofString "a")
    ⟨[(Text.ofString "x", Text.ofString "&lt"), (Text.ofString "y", [])], by decide⟩
    [(Text.ofString "y", []), (Text.ofString "x", Text.ofString "&lt")] false (.swap _ _ _)
  have htext := @Token.Delivers.text (Text.ofString "&amp;" ++ [0])
    [⟨Text.ofString "&a", .data, false⟩, ⟨Text.ofString "mp;am", .data, false⟩]
    ⟨Text.ofString "p;" ++ [0], .data, true⟩ (by decide) rfl (by decide) (by decide)
  have h : List.Forall₂ Token.Delivers deliveredTokens deliveredStreams :=
    .cons hstart (.cons htext (.cons (.endTag _ _ _) .nil))
  have hfaithful := sameList_of_faithful h (by decide) (by decide)
  exact ⟨h, hfaithful.1, hfaithful.2.1⟩

end Verdicts

end Collector

end TokenConformance
