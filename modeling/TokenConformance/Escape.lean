import TokenConformance.Text.Quote
import TokenConformance.Text.Surrogate

/-!
# Double escaping — resolving `\uXXXX` in the texts of a test

A double-escaped text writes code points as a backslash, the letter `u` and four hexadecimal
digits.  Resolving replaces each such escape once, from left to right, and then joins surrogate
pairs.  A backslash and `u` without four digits behind them are an error at their index.
-/

namespace TokenConformance

/-- A malformed escape: the text and the index of its backslash. -/
structure EscapeError where
  text : Text
  index : Nat
  deriving DecidableEq

open Text (ofString) in
/-- What an escape error says; it shows the six code points from the index on. -/
def EscapeError.message (e : EscapeError) : Text :=
  ofString "malformed unicode escape at index " ++ Text.ofNat e.index ++ ofString ": " ++
    Text.quote ((e.text.drop e.index).take 6)

namespace Escape

/-- Replaces every escape by its code point, or gives the index of the first malformed one; `index`
is where the text stands. -/
def resolve (index : Nat) : Text → Except Nat Text
  | [] => .ok []
  | c :: rest =>
    if c = '\\' && rest.head? = some (.ofChar 'u') then
      match rest with
      | _ :: h₁ :: h₂ :: h₃ :: h₄ :: rest =>
        match CodePoint.hex4? h₁ h₂ h₃ h₄ with
        | some n => (resolve (index + 6) rest).map (.ofNat n :: ·)
        | none => .error index
      | _ => .error index
    else (resolve (index + 1) rest).map (c :: ·)

/-- Whether a backslash followed by `u` stands somewhere in the text. -/
def occursIn (t : Text) : Bool := (Text.ofString "\\u").occursIn t

/-- The text with its escapes resolved.  A text without escapes is left as it is. -/
def unescape (t : Text) : Except EscapeError Text :=
  if occursIn t then
    match resolve 0 t with
    | .ok resolved => .ok resolved.joinPairs
    | .error index => .error ⟨t, index⟩
  else .ok t

end Escape

end TokenConformance
