import TokenConformance.Escape
import TokenConformance.Token.Basic

/-!
# Unescaping tokens — the second pass over the tokens of a double-escaped test

The texts of each token are unescaped one after another, from left to right; attribute names are
left alone.  At the first malformed escape the pass stops: what came before is rewritten, what
comes after is as it was.
-/

namespace TokenConformance

/-- Applies `f` from left to right up to the first failure, and keeps what comes after. -/
def sweep {α ε : Type} (f : α → α × Option ε) : List α → List α × Option ε
  | [] => ([], none)
  | a :: rest =>
    match f a with
    | (b, some e) => (b :: rest, some e)
    | (b, none) =>
      let (swept, failure) := sweep f rest
      (b :: swept, failure)

/-- A sweep keeps what each step keeps. -/
theorem map_sweep {α β ε : Type} {f : α → α × Option ε} {g : α → β}
    (h : ∀ a, g (f a).1 = g a) (l : List α) : (sweep f l).1.map g = l.map g := by
  induction l with
  | nil => rfl
  | cons a rest ih =>
    have ha := h a
    rw [sweep]
    split
    · rename_i b e hb
      rw [hb] at ha
      simp [ha]
    · rename_i b hb
      rw [hb] at ha
      simp [ha, ih]

namespace Escape

/-- Unescapes a text, or keeps it and gives the error. -/
def unescapeOrKeep (t : Text) : Text × Option EscapeError :=
  match unescape t with
  | .ok resolved => (resolved, none)
  | .error e => (t, some e)

/-- Unescapes a text if there is one. -/
def unescapeOption : Option Text → Option Text × Option EscapeError
  | none => (none, none)
  | some t => ((unescapeOrKeep t).1, (unescapeOrKeep t).2)

/-- Unescapes the value of a pair. -/
def unescapeEntry (p : Text × Text) : (Text × Text) × Option EscapeError :=
  ((p.1, (unescapeOrKeep p.2).1), (unescapeOrKeep p.2).2)

/-- Unescapes the values of a map in order. -/
def unescapeValues (m : OrderedMap Text Text) : OrderedMap Text Text × Option EscapeError :=
  (⟨(sweep unescapeEntry m.entries).1, by
    rw [map_sweep (fun _ => rfl)]; exact m.nodup⟩, (sweep unescapeEntry m.entries).2)

end Escape

namespace Token

open Escape

/-- Unescapes the texts of a token in the order of its fields. -/
def unescape : Token → Token × Option EscapeError
  | text data => (text (unescapeOrKeep data).1, (unescapeOrKeep data).2)
  | comment data => (comment (unescapeOrKeep data).1, (unescapeOrKeep data).2)
  | endTag name => (endTag (unescapeOrKeep name).1, (unescapeOrKeep name).2)
  | startTag name attributes selfClosing =>
    match unescapeOrKeep name with
    | (name, some e) => (startTag name attributes selfClosing, some e)
    | (name, none) =>
      let (attributes, failure) := unescapeValues attributes
      (startTag name attributes selfClosing, failure)
  | doctype name publicId systemId forceQuirks =>
    match unescapeOption name with
    | (name, some e) => (doctype name publicId systemId forceQuirks, some e)
    | (name, none) =>
      match unescapeOption publicId with
      | (publicId, some e) => (doctype name publicId systemId forceQuirks, some e)
      | (publicId, none) =>
        let (systemId, failure) := unescapeOption systemId
        (doctype name publicId systemId forceQuirks, failure)

/-- Unescapes tokens one after another. -/
def unescapeList (tokens : List Token) : List Token × Option EscapeError := sweep unescape tokens

end Token

/-- What a list of tokens may hold by mistake: a token, or a value of another type. -/
inductive TokenEntry
  | token (t : Token)
  | foreign (typeName : Text)
  deriving DecidableEq

/-- Why a pass over a list of tokens stopped. -/
inductive UnescapeFailure
  | escape (e : EscapeError)
  | notToken (typeName : Text)
  deriving DecidableEq

/-- What the error says. -/
def UnescapeFailure.message : UnescapeFailure → Text
  | escape e => e.message
  | notToken typeName => Text.ofString "Not a canonical token: " ++ typeName

namespace TokenEntry

/-- Unescapes a token; other values fail as they are. -/
def unescape : TokenEntry → TokenEntry × Option UnescapeFailure
  | token t => (token t.unescape.1, t.unescape.2.map .escape)
  | foreign typeName => (foreign typeName, some (.notToken typeName))

/-- Unescapes the entries of a list one after another. -/
def unescapeList (entries : List TokenEntry) : List TokenEntry × Option UnescapeFailure :=
  sweep unescape entries

end TokenEntry

end TokenConformance
