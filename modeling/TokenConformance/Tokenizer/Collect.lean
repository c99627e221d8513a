import TokenConformance.Collector
import TokenConformance.Tokenizer.Basic

/-!
# Collecting a tokenizer's tokens — one call, reduced to normal form

The tokens of a call go into a fresh collector as they are emitted.  The call fails where a push
fails, or else where the tokenizer does.
-/

namespace TokenConformance

/-- Why a call gave no list of tokens. -/
inductive CollectError
  | tokenizer (e : TokenizerError)
  | push (e : PushError)
  deriving DecidableEq

/-- What a call gave: the tokens and the trace up to its end or its failure. -/
structure Collected where
  tokens : List Token
  events : List TraceEvent
  failure? : Option CollectError
  deriving DecidableEq

/-- What an emission comes to in a collector. -/
def Emission.collect (emission : Emission) : Collected :=
  let pushed := Collector.empty.pushAll emission.tokens
  let failure? := match pushed.failure? with
    | some e => some (.push e)
    | none => emission.failure?.map .tokenizer
  ⟨pushed.collector.tokens, pushed.events, failure?⟩

end TokenConformance
