import TokenConformance.Tokenizer.Basic

/-!
# Scripted tokenizers — answers laid down in advance

A `Rule` answers the calls that meet all of its conditions; the first such rule counts.  Calls
without a rule go to `standIn`, a tokenizer that knows comments, start tags and text in the
simplest of forms.
-/

namespace TokenConformance

/-- A scripted answer.  A condition that is not given holds for every call. -/
structure Rule where
  input : Option Text
  state : Option TokenizerState
  lastStartTag : Option (Option Text)
  drafts : List TokenDraft
  failure? : Option TokenizerError

/-- Whether a value is the given text. -/
def Json.isText (v : Json) (t : Text) : Bool :=
  match v with
  | .str s => s == t
  | _ => false

/-- Whether a value is null. -/
def Json.isNull : Json → Bool
  | .null => true
  | _ => false

/-- Whether the rule's conditions hold for a call. -/
def Rule.applies (rule : Rule) (input : Json) (state : TokenizerState) (lastStartTag : Json) :
    Bool :=
  rule.input.all input.isText && rule.state.all (· == state) &&
    rule.lastStartTag.all fun
      | none => lastStartTag.isNull
      | some name => lastStartTag.isText name

open Text (ofString)

/-- The tokens that the stand-in emits for a text. -/
def standInTokens (t : Text) (state : TokenizerState) : List StreamToken :=
  if t.startsWith (ofString "<!--") && t.endsWith (ofString "-->") then
    [.comment ((t.take (t.length - 3)).drop 4)]
  else if t.startsWith (ofString "<") && t.endsWith (ofString ">") then
    [.startTag ((t.take (t.length - 1)).drop 1) [] false]
  else
    [.text ⟨t.take (t.length / 2), state, false⟩, .text ⟨t.drop (t.length / 2), state, true⟩]

/-- The tokenizer for calls without a rule: a comment between its marks, a start tag between angle
brackets, or else the input in two halves. -/
def standIn : Tokenizer := fun input state _ =>
  if state = .cdataSection then ⟨[], some .notImplemented⟩
  else
    match input with
    | .str t => ⟨standInTokens t state, none⟩
    | _ => ⟨[], some .inputNotText⟩

/-- The tokenizer that follows rules. -/
def scripted (rules : List Rule) : Tokenizer := fun input state lastStartTag =>
  match rules.find? fun rule => rule.applies input state lastStartTag with
  | some rule => .ofDrafts rule.drafts rule.failure?
  | none => standIn input state lastStartTag

end TokenConformance
