import Mathlib.Data.List.Forall2
import TokenConformance.Proofs.Escape.Written
import TokenConformance.Proofs.Token.RecordLaws
import TokenConformance.Suite.TestCase

/-!
# Loading a double-escaped test — what was written as escapes comes back

A test is double-escaped by writing its input and the texts of its expected tokens as escapes
(`Token.WrittenAs`).  The loader lowers names while they are still escaped, and lowers nothing but
digits (`WrittenAs.lowered`); after that every text is unescaped to the one that was written
(`WrittenAs.unescape`).  So the test is loaded as if it had not been escaped
(`ofEntry_of_doubleEscaped`).
-/

namespace TokenConformance

/-! ## Definitions -/

section Defs

namespace Token

/-- The texts of a token that escapes are resolved in: all but its attribute names. -/
def texts : Token → List Text
  | text data => [data]
  | comment data => [data]
  | startTag name attributes _ => name :: attributes.entries.map Prod.snd
  | endTag name => [name]
  | doctype name publicId systemId _ => name.toList ++ publicId.toList ++ systemId.toList

/-- The attribute names of a token. -/
def keys : Token → List Text
  | startTag _ attributes _ => attributes.keys
  | _ => []

/-- The second token is the first one with its texts written as escapes. -/
inductive WrittenAs : Token → Token → Prop
  | text {data e : Text} (h : data.WrittenAs e) : WrittenAs (.text data) (.text e)
  | comment {data e : Text} (h : data.WrittenAs e) : WrittenAs (.comment data) (.comment e)
  | startTag {name e : Text} {attributes escaped : OrderedMap Text Text} {selfClosing : Bool}
      (hname : name.WrittenAs e)
      (hattributes : List.Forall₂ (fun p q => q.1 = p.1 ∧ p.2.WrittenAs q.2)
        attributes.entries escaped.entries) :
      WrittenAs (.startTag name attributes selfClosing) (.startTag e escaped selfClosing)
  | endTag {name e : Text} (h : name.WrittenAs e) : WrittenAs (.endTag name) (.endTag e)
  | doctype {name publicId systemId e f g : Option Text} {forceQuirks : Bool}
      (hname : Option.Rel Text.WrittenAs name e) (hpublic : Option.Rel Text.WrittenAs publicId f)
      (hsystem : Option.Rel Text.WrittenAs systemId g) :
      WrittenAs (.doctype name publicId systemId forceQuirks) (.doctype e f g forceQuirks)

end Token

end Defs

/-! ## Sweeps -/

section Sweeps

/-- A sweep without failures gives what its steps give. -/
theorem sweep_of_forall₂ {α ε : Type} {f : α → α × Option ε} {as bs : List α}
    (h : List.Forall₂ (fun a b => f b = (a, none)) as bs) : sweep f bs = (as, none) := by
  induction h with
  | nil => rfl
  | cons h _ ih =>
    rw [sweep, h]
    dsimp only
    rw [ih]

end Sweeps

/-! ## Tokens -/

section Tokens

open Escape

variable {t e : Text}

theorem unescapeOrKeep_of_writtenAs (h : t.WrittenAs e) (hapart : t.SurrogatesApart) :
    unescapeOrKeep e = (t, none) := by
  rw [unescapeOrKeep, unescape_of_writtenAs h hapart]

theorem unescapeOption_of_writtenAs {t e : Option Text} (h : Option.Rel Text.WrittenAs t e)
    (hapart : ∀ s ∈ t, Text.SurrogatesApart s) : unescapeOption e = (t, none) := by
  cases h with
  | none => rfl
  | some h => rw [unescapeOption, unescapeOrKeep_of_writtenAs h (hapart _ rfl)]

theorem unescapeValues_of_writtenAs {m n : OrderedMap Text Text}
    (h : List.Forall₂ (fun p q => q.1 = p.1 ∧ p.2.WrittenAs q.2) m.entries n.entries)
    (hapart : ∀ s ∈ m.entries.map Prod.snd, Text.SurrogatesApart s) :
    unescapeValues n = (m, none) := by
  have hvalues : ∀ p ∈ m.entries, p.2.SurrogatesApart :=
    fun p hp => hapart p.2 (List.mem_map_of_mem hp)
  have hentries : sweep unescapeEntry n.entries = (m.entries, none) := by
    refine sweep_of_forall₂ (((List.forall₂_and_left _ _).2 ⟨hvalues, h⟩).imp ?_)
    rintro p q ⟨hp, hkey, hvalue⟩
    rw [unescapeEntry, unescapeOrKeep_of_writtenAs hvalue hp, hkey]
  have hmap : (unescapeValues n).1 = m := OrderedMap.eq_of_entries_eq (congrArg Prod.fst hentries)
  have hfailure : (unescapeValues n).2 = none := congrArg Prod.snd hentries
  exact Prod.ext hmap hfailure

namespace Token

/-- Lowering the names of an escaped token lowers digits only. -/
theorem WrittenAs.lowered {t e : Token} (h : WrittenAs t e)
    (hkeys : ∀ key ∈ t.keys, key.any CodePoint.isUpper = false) : WrittenAs t e.lowered := by
  cases h with
  | text h => exact .text h
  | comment h => exact .comment h
  | endTag h => exact .endTag (WritesUnits.asciiLower h)
  | @startTag name e attributes escaped selfClosing hname hattributes =>
    have hsame : escaped.keys = attributes.keys := by
      have hkey : List.Forall₂ (· = ·) (attributes.entries.map Prod.fst)
          (escaped.entries.map Prod.fst) :=
        List.forall₂_map_left_iff.2 (List.forall₂_map_right_iff.2
          (hattributes.imp fun p q h => h.1.symm))
      rw [List.forall₂_eq_eq_eq] at hkey
      exact hkey.symm
    rw [Token.lowered, lowerKeys_of_notUpper (hsame ▸ hkeys)]
    exact .startTag (WritesUnits.asciiLower hname) hattributes
  | doctype hname hpublic hsystem =>
    refine .doctype ?_ hpublic hsystem
    cases hname with
    | none => exact .none
    | some h => exact .some (WritesUnits.asciiLower h)

theorem WrittenAs.unescape {t e : Token} (h : WrittenAs t e)
    (hapart : ∀ s ∈ t.texts, s.SurrogatesApart) : e.unescape = (t, none) := by
  cases h with
  | text h => rw [Token.unescape, unescapeOrKeep_of_writtenAs h (hapart _ (by simp [texts]))]
  | comment h => rw [Token.unescape, unescapeOrKeep_of_writtenAs h (hapart _ (by simp [texts]))]
  | endTag h => rw [Token.unescape, unescapeOrKeep_of_writtenAs h (hapart _ (by simp [texts]))]
  | startTag hname hattributes =>
    have hvalues := unescapeValues_of_writtenAs hattributes
      fun s hs => hapart s (List.mem_cons_of_mem _ hs)
    rw [Token.unescape, unescapeOrKeep_of_writtenAs hname (hapart _ (by simp [texts]))]
    dsimp only
    rw [hvalues]
  | doctype hname hpublic hsystem =>
    rw [Token.unescape,
      unescapeOption_of_writtenAs hname fun s hs => hapart s (by simp_all [texts])]
    dsimp only
    rw [unescapeOption_of_writtenAs hpublic fun s hs => hapart s (by simp_all [texts])]
    dsimp only
    rw [unescapeOption_of_writtenAs hsystem fun s hs => hapart s (by simp_all [texts])]

end Token

end Tokens

/-! ## Tests -/

section Tests

open Text (ofString)

namespace TestCase

variable {members : List (Text × Json)} {input e : Text} {tokens escaped : List Token}

theorem unescapeExpected_of_writtenAs (h : List.Forall₂ Token.WrittenAs tokens escaped)
    (hapart : ∀ t ∈ tokens, ∀ s ∈ t.texts, s.SurrogatesApart) :
    unescapeExpected escaped = .ok tokens := by
  have hswept : Token.unescapeList escaped = (tokens, none) := by
    refine sweep_of_forall₂ (((List.forall₂_and_left _ _).2 ⟨hapart, h⟩).imp ?_)
    rintro t e ⟨ht, he⟩
    exact he.unescape ht
  rw [unescapeExpected, hswept]

/-- **A double-escaped test is loaded as what was written**: its input, and its tokens in every
letter of their names. -/
theorem ofEntry_of_doubleEscaped {flag : Json} {states : List TokenizerState}
    (hinput : Json.member? (ofString "input") members = some (.str e))
    (houtput : Json.member? (ofString "output") members =
      some (.arr (escaped.map Token.toRecord)))
    (hflag : Json.member? (ofString "doubleEscaped") members = some flag)
    (htruthy : flag.isTruthy = true)
    (hstates : statesOf ((Json.member? (ofString "initialStates") members).getD .null) =
      .ok states)
    (he : input.WrittenAs e) (hapart : input.SurrogatesApart)
    (hescaped : List.Forall₂ Token.WrittenAs tokens escaped)
    (htexts : ∀ t ∈ tokens, ∀ s ∈ t.texts, s.SurrogatesApart)
    (hkeys : ∀ t ∈ tokens, ∀ key ∈ t.keys, key.any CodePoint.isUpper = false) :
    ∃ test, ofEntry (.obj members) = .ok test ∧ test.input = .str input ∧
      test.expected = tokens ∧ test.initialStates = states ∧ test.doubleEscaped = true := by
  have hlowered : List.Forall₂ Token.WrittenAs tokens (escaped.map Token.lowered) := by
    refine List.forall₂_map_right_iff.2 (((List.forall₂_and_left _ _).2 ⟨hkeys, hescaped⟩).imp ?_)
    rintro t e ⟨ht, he⟩
    exact he.lowered ht
  have hflagged : (Json.member? (ofString "doubleEscaped") members).any Json.isTruthy = true := by
    rw [hflag]
    exact htruthy
  have hinput' : unescapeInput (.str e) = .ok (.str input) := by
    rw [unescapeInput, Escape.unescape_of_writtenAs he hapart]
  have hloaded : ofEntry (.obj members) =
      .ok ⟨(Json.member? (ofString "description") members).getD (.str []), .str input, tokens,
        states, (Json.member? (ofString "lastStartTag") members).getD .null, true,
        (Json.member? (ofString "errors") members).getD (.arr [])⟩ := by
    rw [ofEntry, ofMembers, required, required, hinput, houtput, hflagged, hstates]
    simp only [Token.ofRecords_toRecord, bind, Except.bind, Except.mapError, if_true, hinput',
      unescapeExpected_of_writtenAs hlowered htexts]
    rfl
  exact ⟨_, hloaded, rfl, rfl, rfl, rfl⟩

/-- An astral code point between lone surrogates, and text that looks like an escape itself. -/
def sampleInput : Text := [0xDC00, 0x1F600, 0xD800] ++ ofString "\\u0041"

/-- Names with capital letters. -/
def sampleTokens : List Token :=
  [.startTag (ofString "Ab") ⟨[(ofString "k", [0xD83D])], by decide⟩ true, .endTag (ofString "J"),
    .doctype (some (ofString "H")) none (some []) false]

def escapedInput : Text :=
  ofString "\\udC00\\uD83d\\uDE00\\ud800\\u005C\\u0075\\u0030\\u0030\\u0034\\u0031"

def escapedTokens : List Token :=
  [.startTag (ofString "\\u0041\\u0062") ⟨[(ofString "k", ofString "\\uD83d")], by decide⟩ true,
    .endTag (ofString "\\u004A"), .doctype (some (ofString "\\u0048")) none (some []) false]

def escapedMembers : List (Text × Json) :=
  [(ofString "input", .str escapedInput),
    (ofString "output", .arr (escapedTokens.map Token.toRecord)),
    (ofString "doubleEscaped", .int 1)]

theorem ofEntry_of_doubleEscaped_sample :
    sampleInput.WrittenAs escapedInput ∧
      List.Forall₂ Token.WrittenAs sampleTokens escapedTokens ∧
      ∃ test, ofEntry (.obj escapedMembers) = .ok test ∧ test.input = .str sampleInput ∧
        test.expected = sampleTokens ∧ test.initialStates = [.data] ∧
        test.doubleEscaped = true := by
  have hinput : Json.member? (ofString "input") escapedMembers = some (.str escapedInput) := rfl
  have houtput : Json.member? (ofString "output") escapedMembers =
      some (.arr (escapedTokens.map Token.toRecord)) := rfl
  have hflag : Json.member? (ofString "doubleEscaped") escapedMembers = some (.int 1) := rfl
  have hstates : statesOf ((Json.member? (ofString "initialStates") escapedMembers).getD .null) =
      .ok [.data] := rfl
  have he : sampleInput.WrittenAs escapedInput := by decide
  have htokens : List.Forall₂ Token.WrittenAs sampleTokens escapedTokens :=
    .cons (.startTag (by decide) (.cons ⟨rfl, by decide⟩ .nil)) (.cons (.endTag (by decide))
      (.cons (.doctype (.some (by decide)) .none (.some (by decide))) .nil))
  have hapart : sampleInput.SurrogatesApart := by decide
  have htexts : ∀ t ∈ sampleTokens, ∀ s ∈ t.texts, s.SurrogatesApart := by decide
  have hkeys : ∀ t ∈ sampleTokens, ∀ key ∈ t.keys, key.any CodePoint.isUpper = false := by
    decide
  exact ⟨he, htokens,
    ofEntry_of_doubleEscaped hinput houtput hflag rfl hstates he hapart htokens htexts hkeys⟩

end TestCase

end Tests

end TokenConformance
