import TokenConformance.Stream.Token

/-!
# Tokenizers — what is put to the test

A tokenizer is called with an input, the state to start in and the last start tag.  It emits stream
tokens one after another and may fail on the way; what it emitted before failing counts.
-/

namespace TokenConformance

/-- Why a tokenizer failed. -/
inductive TokenizerError
  /-- It does not support the state it was started in. -/
  | notImplemented
  /-- It broke down. -/
  | crashed
  /-- It tried to construct a tag with ill-formed attributes. -/
  | declaration (e : DeclarationError)
  /-- Its input is no text. -/
  | inputNotText
  deriving DecidableEq

/-- What a tokenizer emitted, and why it stopped if it failed. -/
structure Emission where
  tokens : List StreamToken
  failure? : Option TokenizerError
  deriving DecidableEq

/-- The emission of drafts that are constructed one after another. -/
def Emission.ofDrafts (drafts : List TokenDraft) (failure? : Option TokenizerError) : Emission :=
  match drafts with
  | [] => ⟨[], failure?⟩
  | draft :: rest =>
    match draft.construct with
    | .error e => ⟨[], some (.declaration e)⟩
    | .ok token =>
      let others := ofDrafts rest failure?
      ⟨token :: others.tokens, others.failure?⟩

/-- A tokenizer: input, state and last start tag to emission. -/
abbrev Tokenizer := (input : Json) → TokenizerState → (lastStartTag : Json) → Emission

end TokenConformance
