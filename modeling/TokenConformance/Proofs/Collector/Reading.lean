import Mathlib.Data.List.SplitBy
import TokenConformance.Proofs.Collector.Push
import TokenConformance.Proofs.Reference.DecodeLaws

/-!
# Reading a stream — the state of the collector, computed from the stream alone

The reading of a stream knows no cursor: the stream is cut into maximal runs of chunks and other
tokens (`pieces`), a run into its nodes (`nodes`), and each finished node is decoded by itself.

* `TailReads chunks tail`: the text at the tail after a run.  Its cursor stands behind what the
  finished nodes are decoded to; behind the cursor is the raw text of the node that goes on.
* `Reads ts c`: the collector after a stream.  A push takes it to the collector after the stream
  with one more token (`Reads.push`), so it holds after every stream (`Reads.pushAll`).
-/

namespace TokenConformance

/-! ## Definitions -/

section Defs

/-- The chunk that a stream token is. -/
def StreamToken.chunk? : StreamToken → Option TextChunk
  | .text chunk => some chunk
  | _ => none

/-- Whether a stream token is a chunk whose node goes on behind it. -/
def StreamToken.leavesOpen : StreamToken → Bool
  | .text chunk => !chunk.isLast
  | _ => false

namespace Reading

def rawText (chunks : List TextChunk) : Text := chunks.flatMap TextChunk.text

/-- The nodes of a run of chunks: a node ends behind each chunk that is marked as the last. -/
def nodes (chunks : List TextChunk) : List (List TextChunk) :=
  chunks.splitBy fun chunk _ => !chunk.isLast

/-- A node is decoded as a whole, by the kind of its last chunk; one without an end stays raw. -/
def nodeText (node : List TextChunk) : Except NumeralError Text :=
  match node.getLast? with
  | some chunk =>
    if chunk.isLast then decodeText chunk.state (rawText node) else .ok (rawText node)
  | none => .ok []

def runText (chunks : List TextChunk) : Except NumeralError Text :=
  ((nodes chunks).mapM nodeText).map List.flatten

/-- The maximal runs of chunks in a stream, and its other tokens one by one. -/
def pieces (ts : List StreamToken) : List (List StreamToken) :=
  ts.splitBy fun s t => s.isText && t.isText

/-- A run becomes one text, any other token what it stands for; no piece is empty. -/
def pieceToken : List StreamToken → Except PushError Token
  | [] => .ok (.text [])
  | .text chunk :: rest =>
    ((runText (chunk :: rest.filterMap StreamToken.chunk?)).map .text).mapError .numeral
  | t :: _ => Collector.tokenOf t

/-- The tokens that a stream comes to. -/
def tokens (ts : List StreamToken) : Except PushError (List Token) := (pieces ts).mapM pieceToken

/-- How many tokens other than text come while a node goes on. -/
def closedEarly (ts : List StreamToken) : ℕ :=
  (ts.zip ts.tail).countP fun p => p.1.leavesOpen && !p.2.isText

/-- Whether no node goes on behind the chunks. -/
def AtNodeEnd (chunks : List TextChunk) : Prop := ∀ chunk ∈ chunks.getLast?, chunk.isLast = true

/-- The text at the tail after a run of chunks. -/
inductive TailReads : List TextChunk → TailText → Prop
  | closed {chunks : List TextChunk} {decoded : Text} (hend : AtNodeEnd chunks)
      (h : runText chunks = .ok decoded) : TailReads chunks ⟨decoded, decoded.length, false⟩
  | goesOn {chunks node : List TextChunk} {decoded : Text} (hend : AtNodeEnd chunks)
      (h : runText chunks = .ok decoded) (hne : node ≠ [])
      (hopen : ∀ chunk ∈ node, chunk.isLast = false) :
      TailReads (chunks ++ node) ⟨decoded ++ rawText node, decoded.length, true⟩

/-- The collector after a stream: the chunks at the end of the stream are its text at the tail. -/
structure Reads (ts : List StreamToken) (c : Collector) : Prop where
  split : ∃ before chunks, ts = before ++ chunks.map StreamToken.text ∧
    (∀ t ∈ before.getLast?, t.isText = false) ∧ tokens before = .ok c.settled ∧
    (if chunks = [] then c.tail = none else ∃ tail, c.tail = some tail ∧ TailReads chunks tail)
  unterminated : c.unterminated = closedEarly ts

end Reading

end Defs

namespace Reading

/-! ## Runs -/

section Runs

@[simp] theorem runText_nil : runText [] = .ok [] := rfl

theorem nodeText_of_goesOn {node : List TextChunk} (h : ∀ chunk ∈ node, chunk.isLast = false) :
    nodeText node = .ok (rawText node) := by
  unfold nodeText
  cases hl : node.getLast? with
  | none => rw [List.getLast?_eq_none_iff.1 hl]; rfl
  | some chunk => simp [h chunk (List.mem_of_getLast? hl)]

theorem nodeText_concat {node : List TextChunk} {chunk : TextChunk} (h : chunk.isLast = true) :
    nodeText (node ++ [chunk]) = decodeText chunk.state (rawText node ++ chunk.text) := by
  unfold nodeText
  simp [h, rawText]

/-- Behind finished nodes one more node stands for itself. -/
theorem runText_append_node {chunks node : List TextChunk} (hend : AtNodeEnd chunks)
    (hne : node ≠ []) (hnode : ∀ chunk ∈ node.dropLast, chunk.isLast = false) :
    runText (chunks ++ node) = do
      let decoded ← runText chunks
      let text ← nodeText node
      return decoded ++ text := by
  have hcut : nodes (chunks ++ node) = nodes chunks ++ [node] := by
    have hchain : node.IsChain fun chunk _ => (!chunk.isLast) = true := by
      rw [← List.dropLast_append_getLast hne]
      refine List.isChain_append.2 ⟨?_, List.isChain_singleton _, ?_⟩
      · refine List.Pairwise.isChain (List.pairwise_of_forall_mem_list ?_)
        intro a ha _ _
        simp [hnode a ha]
      · intro a ha _ _
        simp [hnode a (List.mem_of_getLast? ha)]
    have hsplit := List.splitBy_append (r := fun chunk _ => !chunk.isLast) (l := chunks) (m := node)
      (fun a ha _ _ => by simp [hend a ha])
    rw [nodes, hsplit, List.splitBy_of_isChain hne hchain]
    rfl
  unfold runText
  rw [hcut, List.mapM_append, List.mapM_cons, List.mapM_nil]
  cases (nodes chunks).mapM nodeText with
  | error e => rfl
  | ok texts =>
    cases nodeText node with
    | error e => rfl
    | ok text => simp [bind, Except.bind, pure, Except.pure, Except.map]

theorem runText_of_tailReads {chunks : List TextChunk} {tail : TailText}
    (h : TailReads chunks tail) : runText chunks = .ok tail.data := by
  cases h with
  | closed hend h => exact h
  | goesOn hend h hne hopen =>
    rw [runText_append_node hend hne fun chunk hc =>
      hopen chunk ((List.dropLast_sublist _).subset hc), h,
      nodeText_of_goesOn hopen]
    rfl

theorem isOpen_of_tailReads {chunks : List TextChunk} {tail : TailText}
    (h : TailReads chunks tail) : tail.isOpen = chunks.getLast?.any fun chunk => !chunk.isLast := by
  cases h with
  | closed hend h =>
    cases hl : chunks.getLast? with
    | none => rfl
    | some chunk => simp [hend chunk hl]
  | @goesOn chunks node decoded hend h hne hopen =>
    rw [List.getLast?_append_of_ne_nil _ hne, List.getLast?_eq_some_getLast hne]
    simp [hopen _ (List.getLast_mem hne)]

/-- The text before the first chunk of a run. -/
theorem tailReads_nil : TailReads [] ⟨[], 0, false⟩ :=
  .closed (fun _ h => by cases h) runText_nil

/-- A chunk that is not the last of its node goes behind the cursor as it is. -/
theorem TailReads.concat_of_not_last {chunks : List TextChunk} {tail : TailText} {chunk : TextChunk}
    (h : TailReads chunks tail) (hc : chunk.isLast = false) :
    TailReads (chunks ++ [chunk]) ⟨tail.data ++ chunk.text, tail.decodedUntil, true⟩ := by
  cases h with
  | closed hend h =>
    have hnew : TailReads (_ ++ [chunk]) _ := .goesOn hend h (by simp) (by simpa using hc)
    simpa [rawText] using hnew
  | @goesOn chunks node decoded hend h hne hopen =>
    have hopen' : ∀ x ∈ node ++ [chunk], x.isLast = false := by
      intro x hx
      rcases List.mem_append.1 hx with hx | hx
      · exact hopen x hx
      · rw [List.mem_singleton.1 hx]
        exact hc
    have hnew : TailReads (chunks ++ (node ++ [chunk])) _ := .goesOn hend h (by simp) hopen'
    simpa [rawText] using hnew

/-- What the last chunk of a node has decoded is the node: all that stands behind the cursor. -/
theorem TailReads.concat_of_last {chunks : List TextChunk} {tail : TailText} {chunk : TextChunk}
    {decoded : Text} (h : TailReads chunks tail) (hc : chunk.isLast = true)
    (hd : decodeText chunk.state ((tail.data ++ chunk.text).drop tail.decodedUntil) =
      .ok decoded) :
    TailReads (chunks ++ [chunk])
      ⟨(tail.data ++ chunk.text).take tail.decodedUntil ++ decoded,
        ((tail.data ++ chunk.text).take tail.decodedUntil ++ decoded).length, false⟩ := by
  have hend' : ∀ l : List TextChunk, AtNodeEnd (l ++ [chunk]) := by
    intro l x hx
    rw [List.getLast?_concat] at hx
    cases hx
    exact hc
  cases h with
  | @closed chunks before hend h =>
    rw [List.drop_left] at hd
    refine .closed (hend' chunks) ?_
    have hnode : nodeText [chunk] = .ok decoded := by
      rw [← List.nil_append [chunk], nodeText_concat hc]
      simpa [rawText] using hd
    rw [runText_append_node hend (by simp) (by simp), h, hnode, List.take_left]
    rfl
  | @goesOn chunks node before hend h hne hopen =>
    rw [List.append_assoc, List.drop_left] at hd
    refine .closed (hend' (chunks ++ node)) ?_
    have hnode : nodeText (node ++ [chunk]) = .ok decoded := by
      rw [nodeText_concat hc]
      exact hd
    rw [List.append_assoc, runText_append_node hend (by simp)
      (by simpa using hopen), h, hnode, List.append_assoc, List.take_left]
    rfl

end Runs

/-! ## Runs of a list -/

section Cuts

variable {α : Type} {p : α → Bool} {before run : List α} {a : α}

/-- Items with a property at the end of a list are a run of their own behind one without it. -/
theorem splitBy_append_run (hb : ∀ a ∈ before.getLast?, p a = false) (hne : run ≠ [])
    (hrun : ∀ a ∈ run, p a = true) :
    (before ++ run).splitBy (fun a b => p a && p b) =
      before.splitBy (fun a b => p a && p b) ++ [run] := by
  have hchain : run.IsChain fun a b => (p a && p b) = true := by
    refine List.Pairwise.isChain (List.pairwise_of_forall_mem_list ?_)
    intro a ha b hb
    rw [hrun a ha, hrun b hb]
    rfl
  rw [List.splitBy_append (fun a ha b _ => by rw [hb a ha]; rfl), List.splitBy_of_isChain hne hchain]

/-- An item without the property is no part of a run before it. -/
theorem splitBy_concat (h : ∀ b ∈ before.getLast?, (p b && p a) = false) :
    (before ++ [a]).splitBy (fun a b => p a && p b) =
      before.splitBy (fun a b => p a && p b) ++ [[a]] :=
  List.splitBy_append_cons [] h

end Cuts

/-! ## Streams -/

section Streams

variable {ts : List StreamToken} {c : Collector} {t : StreamToken}

/-- The tokens of a stream and of a token behind it that starts a piece of its own. -/
theorem tokens_concat (h : ∀ s ∈ ts.getLast?, (s.isText && t.isText) = false) :
    tokens (ts ++ [t]) = do
      let before ← tokens ts
      let token ← pieceToken [t]
      return before ++ [token] := by
  have hcut : pieces (ts ++ [t]) = pieces ts ++ [[t]] := splitBy_concat h
  rw [tokens, hcut, List.mapM_append, List.mapM_cons, List.mapM_nil]
  simp [tokens]

/-- The tokens of a stream that ends in a run of chunks. -/
theorem tokens_append_run {before : List StreamToken} {chunks : List TextChunk}
    (hb : ∀ t ∈ before.getLast?, t.isText = false) (hne : chunks ≠ []) :
    tokens (before ++ chunks.map StreamToken.text) = do
      let settled ← tokens before
      let token ← ((runText chunks).map Token.text).mapError PushError.numeral
      return settled ++ [token] := by
  have hcut : pieces (before ++ chunks.map StreamToken.text) =
      pieces before ++ [chunks.map StreamToken.text] := by
    refine splitBy_append_run hb (by simpa using hne) ?_
    intro t ht
    obtain ⟨chunk, -, rfl⟩ := List.mem_map.1 ht
    rfl
  have htoken : pieceToken (chunks.map StreamToken.text) =
      ((runText chunks).map Token.text).mapError PushError.numeral := by
    obtain ⟨x, chunks, rfl⟩ := List.exists_cons_of_ne_nil hne
    have hchunks : (chunks.map StreamToken.text).filterMap StreamToken.chunk? = chunks := by
      rw [List.filterMap_map]
      exact List.filterMap_some
    rw [List.map_cons, pieceToken, hchunks]
  rw [tokens, hcut, List.mapM_append, List.mapM_cons, List.mapM_nil, htoken]
  simp [tokens]

theorem zip_tail_concat (t : StreamToken) : ∀ ts : List StreamToken,
    (ts ++ [t]).zip (ts ++ [t]).tail = ts.zip ts.tail ++ (ts.getLast?.map (·, t)).toList
  | [] => rfl
  | [s] => rfl
  | s :: s' :: ts => by
    have ih := zip_tail_concat t (s' :: ts)
    simp only [List.cons_append, List.tail_cons, List.zip_cons_cons] at ih ⊢
    rw [ih, List.getLast?_cons_cons]

theorem closedEarly_concat (t : StreamToken) (ts : List StreamToken) :
    closedEarly (ts ++ [t]) =
      closedEarly ts + if ts.getLast?.any StreamToken.leavesOpen && !t.isText then 1 else 0 := by
  rw [closedEarly, zip_tail_concat, List.countP_append]
  cases ts.getLast? <;> simp [closedEarly, List.countP_cons]

/-- The tokens collected are the reading of the stream. -/
theorem Reads.tokens_eq (h : Reads ts c) : tokens ts = .ok c.tokens := by
  obtain ⟨before, chunks, rfl, hb, hsettled, htail⟩ := h.split
  by_cases hne : chunks = []
  · rw [if_pos hne] at htail
    subst hne
    rw [List.map_nil, List.append_nil, hsettled, Collector.tokens_of_none htail]
  · rw [if_neg hne] at htail
    obtain ⟨tail, htail, hreads⟩ := htail
    rw [tokens_append_run hb hne, hsettled, runText_of_tailReads hreads,
      Collector.tokens_of_some htail]
    rfl

/-- A node is open where the last token of the stream leaves one open. -/
theorem Reads.hasOpenText_eq (h : Reads ts c) :
    c.hasOpenText = ts.getLast?.any StreamToken.leavesOpen := by
  obtain ⟨before, chunks, rfl, hb, -, htail⟩ := h.split
  rw [Collector.hasOpenText]
  by_cases hne : chunks = []
  · rw [if_pos hne] at htail
    subst hne
    rw [htail, List.map_nil, List.append_nil]
    cases hl : before.getLast? with
    | none => rfl
    | some t =>
      have ht := hb t hl
      cases t with
      | text chunk => cases ht
      | _ => rfl
  · rw [if_neg hne] at htail
    obtain ⟨tail, htail, hreads⟩ := htail
    rw [htail, List.getLast?_append_of_ne_nil _ (by simpa using hne), List.getLast?_map,
      Option.any_some, isOpen_of_tailReads hreads]
    cases chunks.getLast? <;> rfl

theorem reads_empty : Reads [] .empty :=
  ⟨⟨[], [], rfl, by simp, rfl, rfl⟩, rfl⟩

/-- A chunk makes the run at the end of the stream one longer. -/
theorem Reads.push_text (h : Reads ts c) {chunk : TextChunk}
    (hf : (c.pushText chunk).failure? = none) :
    Reads (ts ++ [.text chunk]) (c.pushText chunk).collector := by
  obtain ⟨⟨before, chunks, rfl, hb, hsettled, htail⟩, hun⟩ := h
  have hcurrent : TailReads chunks c.currentText := by
    unfold Collector.currentText
    by_cases hne : chunks = []
    · rw [if_pos hne] at htail
      rw [hne, htail]
      exact tailReads_nil
    · rw [if_neg hne] at htail
      obtain ⟨tail, htail, hreads⟩ := htail
      rw [htail]
      exact hreads
  have hun' : c.unterminated =
      closedEarly (before ++ chunks.map StreamToken.text ++ [.text chunk]) := by
    rw [closedEarly_concat, hun]
    simp [StreamToken.isText]
  have hne : chunks ++ [chunk] ≠ [] := by simp
  rcases Collector.pushText_cases c chunk with ⟨hlast, -, hcollector⟩ |
    ⟨e, -, -, hfail, -⟩ | ⟨decoded, hlast, hd, -, hcollector⟩
  · rw [hcollector]
    refine ⟨⟨before, chunks ++ [chunk], by simp, hb, hsettled, ?_⟩, hun'⟩
    rw [if_neg hne]
    exact ⟨_, rfl, hcurrent.concat_of_not_last hlast⟩
  · rw [hfail] at hf
    cases hf
  · rw [hcollector]
    refine ⟨⟨before, chunks ++ [chunk], by simp, hb, hsettled, ?_⟩, hun'⟩
    rw [if_neg hne]
    exact ⟨_, rfl, hcurrent.concat_of_last hlast hd⟩

/-- Any other token ends the run, and becomes a token by itself. -/
theorem Reads.push_other (h : Reads ts c) (ht : t.isText = false)
    (hf : (c.push t).failure? = none) : Reads (ts ++ [t]) (c.push t).collector := by
  cases htoken : Collector.tokenOf t with
  | error e =>
    rw [(Collector.push_of_tokenOf_error ht htoken).1] at hf
    cases hf
  | ok token =>
    have hpiece : pieceToken [t] = .ok token := by
      cases t with
      | text chunk => cases ht
      | _ => exact htoken
    rw [(Collector.push_of_tokenOf ht htoken).2]
    refine ⟨⟨ts ++ [t], [], by simp, ?_, ?_, rfl⟩, ?_⟩
    · intro s hs
      rw [List.getLast?_concat] at hs
      cases hs
      exact ht
    · rw [tokens_concat (fun s _ => by rw [ht, Bool.and_false]), h.tokens_eq, hpiece]
      rfl
    · rw [closedEarly_concat, ← h.hasOpenText_eq, h.unterminated, ht]
      cases c.hasOpenText <;> rfl

/-- **The step**: a push goes from the reading of a stream to that of the stream with the token. -/
theorem Reads.push (h : Reads ts c) (hf : (c.push t).failure? = none) :
    Reads (ts ++ [t]) (c.push t).collector := by
  cases t with
  | text chunk => exact h.push_text hf
  | _ => exact h.push_other rfl hf

/-- **The run**: a stream that is pushed without failure is read. -/
theorem Reads.pushAll : ∀ (us : List StreamToken) {ts : List StreamToken} {c : Collector},
    Reads ts c → (c.pushAll us).failure? = none → Reads (ts ++ us) (c.pushAll us).collector
  | [], ts, c, h, _ => by rw [List.append_nil]; exact h
  | t :: us, ts, c, h, hf => by
    have ht := Collector.failure?_pushAll_cons hf
    obtain ⟨hfail, hcollector⟩ := Collector.pushAll_cons ht us
    rw [hfail] at hf
    rw [hcollector, List.append_cons]
    exact Reads.pushAll us (h.push ht) hf

/-- **A collector is its stream read**: runs of chunks decoded node by node, all other tokens one by
one, whether a node goes on at the end, and how many were closed early. -/
theorem pushAll_eq_reading (h : (Collector.empty.pushAll ts).failure? = none) :
    tokens ts = .ok (Collector.empty.pushAll ts).collector.tokens ∧
      (Collector.empty.pushAll ts).collector.hasOpenText =
        ts.getLast?.any StreamToken.leavesOpen ∧
      (Collector.empty.pushAll ts).collector.unterminated = closedEarly ts := by
  have hreads := reads_empty.pushAll ts h
  exact ⟨hreads.tokens_eq, hreads.hasOpenText_eq, hreads.unterminated⟩

theorem failure?_pushAll_of_nodes {s t u v x y : Text}
    (hnode : decodeText .rcdata (s ++ (t ++ u)) = .ok x) (hraw : decodeText .rawtext v = .ok y) :
    (Collector.empty.pushAll [.text ⟨s, .data, false⟩, .text ⟨t, .rawtext, false⟩,
      .text ⟨u, .rcdata, true⟩, .text ⟨v, .rawtext, true⟩, .text ⟨v, .data, false⟩,
      .comment s, .text ⟨[], .data, false⟩]).failure? = none := by
  simp [Collector.pushAll, Collector.push, Collector.pushText, Collector.empty, Collector.tokenOf,
    Collector.closeText, hnode, hraw]

/-- A reference spread over three chunks, a second node in the same run whose text looks like a
reference, a node that is closed early, and one that goes on. -/
def mixedStream : List StreamToken :=
  [.text ⟨Text.ofString "&a", .data, false⟩, .text ⟨Text.ofString "mp", .rawtext, false⟩,
    .text ⟨Text.ofString ";lt;", .rcdata, true⟩, .text ⟨Text.ofString "&lt;", .rawtext, true⟩,
    .text ⟨Text.ofString "&lt;", .data, false⟩, .comment (Text.ofString "&a"),
    .text ⟨[], .data, false⟩]

theorem pushAll_eq_reading_mixedStream :
    (Collector.empty.pushAll mixedStream).failure? = none ∧
      tokens mixedStream = .ok (Collector.empty.pushAll mixedStream).collector.tokens ∧
      (Collector.empty.pushAll mixedStream).collector.hasOpenText =
        mixedStream.getLast?.any StreamToken.leavesOpen ∧
      (Collector.empty.pushAll mixedStream).collector.unterminated = closedEarly mixedStream := by
  have hnulls : (Text.ofString "&a" ++ (Text.ofString "mp" ++ Text.ofString ";lt;")).replaceNulls =
      CodePoint.ofChar '&' :: (Reference.ampersand.name ++ Text.ofString "lt;") := by decide
  have hnode : decodeText .rcdata
      (Text.ofString "&a" ++ (Text.ofString "mp" ++ Text.ofString ";lt;")) =
        .ok (Text.ofString "&lt;") := by
    rw [decodeText_rcdata, hnulls, Reference.decode_ampersand,
      Reference.decode_of_notMem (by decide)]
    rfl
  have h : (Collector.empty.pushAll mixedStream).failure? = none :=
    failure?_pushAll_of_nodes hnode (decodeText_rawtext (Text.ofString "&lt;"))
  exact ⟨h, pushAll_eq_reading h⟩

end Streams

end Reading

end TokenConformance
