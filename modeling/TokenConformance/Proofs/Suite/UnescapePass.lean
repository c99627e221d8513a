import TokenConformance.Proofs.Escape.Lowering
import TokenConformance.Proofs.Suite.DoubleEscaped

/-!
# Unescaping passes — how far a pass gets, and what it leaves as it was

Unescaping a token sweeps its texts in order (`Token.sweep_texts`), and unescaping a list sweeps its
entries.  A list is `Swept` if every item of it was done, or everything in front of the first item that
could not be, and nothing behind that one (`swept_sweep`).  So a pass that fails has unescaped all that
stands in front of the first malformed text and nothing else, and no pass touches anything but texts
(`TokenEntry.unescapeList_stops_at_first`).
-/

namespace TokenConformance

/-! ## Definitions -/

section Defs

/-- A list before and after a sweep: every item was done, or the sweep stopped at an item with an error,
everything in front of it was done, and everything behind it is as it was. -/
inductive Swept {α ε : Type} (Done : α → α → Prop) (Stops : α → α → ε → Prop) :
    List α → List α → Option ε → Prop
  | complete {l done : List α} (h : List.Forall₂ Done l done) : Swept Done Stops l done none
  | stopped {before done after : List α} {a b : α} {e : ε} (hbefore : List.Forall₂ Done before done)
      (hstops : Stops a b e) :
      Swept Done Stops (before ++ a :: after) (done ++ b :: after) (some e)

/-- Texts before and after they are unescaped in order, up to a malformed one, which stays. -/
def Escape.TextsSwept : List Text → List Text → Option EscapeError → Prop :=
  Swept (fun s t => unescape s = .ok t) fun s t e => t = s ∧ unescape s = .error e

/-- The second token is the first one with other texts: it is of the same kind, and has the same
attribute names in the same order, the same absent fields and the same flags. -/
inductive Token.SameShape : Token → Token → Prop
  | text (data data' : Text) : SameShape (.text data) (.text data')
  | comment (data data' : Text) : SameShape (.comment data) (.comment data')
  | startTag (name name' : Text) {attributes attributes' : OrderedMap Text Text} (selfClosing : Bool)
      (hkeys : attributes'.keys = attributes.keys) :
      SameShape (.startTag name attributes selfClosing) (.startTag name' attributes' selfClosing)
  | endTag (name name' : Text) : SameShape (.endTag name) (.endTag name')
  | doctype {name name' publicId publicId' systemId systemId' : Option Text} (forceQuirks : Bool)
      (hname : name'.isSome = name.isSome) (hpublic : publicId'.isSome = publicId.isSome)
      (hsystem : systemId'.isSome = systemId.isSome) :
      SameShape (.doctype name publicId systemId forceQuirks)
        (.doctype name' publicId' systemId' forceQuirks)

namespace TokenEntry

/-- The second entry is the first one, with other texts if it is a token. -/
inductive SameShape : TokenEntry → TokenEntry → Prop
  | token {t t' : Token} (h : t.SameShape t') : SameShape (.token t) (.token t')
  | foreign (typeName : Text) : SameShape (.foreign typeName) (.foreign typeName)

/-- The second entry is the first one with all its texts unescaped. -/
inductive Unescaped : TokenEntry → TokenEntry → Prop
  | token {t t' : Token} (hshape : t.SameShape t') (htexts : Escape.TextsSwept t.texts t'.texts none) :
      Unescaped (.token t) (.token t')

/-- A pass stops at the first entry and makes the second one of it: a token with its texts unescaped up to
a malformed one, or a value that is no token. -/
inductive StopsAt : TokenEntry → TokenEntry → UnescapeFailure → Prop
  | malformed {t t' : Token} {e : EscapeError} (hshape : t.SameShape t')
      (htexts : Escape.TextsSwept t.texts t'.texts (some e)) :
      StopsAt (.token t) (.token t') (.escape e)
  | foreign (typeName : Text) : StopsAt (.foreign typeName) (.foreign typeName) (.notToken typeName)

/-- An entry is no token, or an escape in one of its texts is malformed. -/
def Faulty : TokenEntry → Prop
  | token t => ∃ s ∈ t.texts, s.LacksDigits (.ofChar 'u')
  | foreign _ => True

end TokenEntry

end Defs

/-! ## Sweeps -/

section Sweeps

variable {α β ε : Type} {f : α → α × Option ε} {Done : α → α → Prop} {Stops : α → α → ε → Prop}

theorem sweep_cons_of_error {a b : α} {e : ε} (h : f a = (b, some e)) (l : List α) :
    sweep f (a :: l) = (b :: l, some e) := by
  rw [sweep, h]

theorem sweep_cons_of_done {a b : α} (h : f a = (b, none)) (l : List α) :
    sweep f (a :: l) = (b :: (sweep f l).1, (sweep f l).2) := by
  rw [sweep, h]

/-- A sweep fails exactly if one of its steps does. -/
theorem sweep_eq_none_iff {l : List α} : (sweep f l).2 = none ↔ ∀ a ∈ l, (f a).2 = none := by
  induction l with
  | nil => simp [sweep]
  | cons a l ih =>
    rw [List.forall_mem_cons, ← ih]
    rcases hf : f a with ⟨b, - | e⟩
    · simp [sweep_cons_of_done hf]
    · simp [sweep_cons_of_error hf]

/-- The second part of a list is swept if nothing fails in the first one. -/
theorem sweep_append (l m : List α) : sweep f (l ++ m) =
    match sweep f l with
    | (l', some e) => (l' ++ m, some e)
    | (l', none) => (l' ++ (sweep f m).1, (sweep f m).2) := by
  induction l with
  | nil => rfl
  | cons a l ih =>
    rw [List.cons_append]
    rcases hf : f a with ⟨b, - | e⟩
    · rw [sweep_cons_of_done hf, sweep_cons_of_done hf, ih]
      rcases sweep f l with ⟨l', - | e⟩ <;> rfl
    · rw [sweep_cons_of_error hf, sweep_cons_of_error hf]
      rfl

/-- A step that acts on a part of each item sweeps these parts. -/
theorem sweep_map {g : α → β} {k : β → β × Option ε} (h : ∀ a, k (g a) = (g (f a).1, (f a).2))
    (l : List α) : sweep k (l.map g) = ((sweep f l).1.map g, (sweep f l).2) := by
  induction l with
  | nil => rfl
  | cons a l ih =>
    have ha := h a
    rw [List.map_cons]
    rcases hf : f a with ⟨b, - | e⟩ <;> rw [hf] at ha
    · rw [sweep_cons_of_done hf, sweep_cons_of_done ha, ih]
      rfl
    · rw [sweep_cons_of_error hf, sweep_cons_of_error ha]
      rfl

theorem Swept.cons {a b : α} {l l' : List α} {failure : Option ε} (ha : Done a b)
    (h : Swept Done Stops l l' failure) : Swept Done Stops (a :: l) (b :: l') failure := by
  cases h with
  | complete h => exact .complete (.cons ha h)
  | stopped hbefore hstops => exact .stopped (.cons ha hbefore) hstops

/-- **A sweep does one item after another, up to the first that fails.** -/
theorem swept_sweep (hdone : ∀ a, (f a).2 = none → Done a (f a).1)
    (hstops : ∀ a e, (f a).2 = some e → Stops a (f a).1 e) (l : List α) :
    Swept Done Stops l (sweep f l).1 (sweep f l).2 := by
  induction l with
  | nil => exact .complete .nil
  | cons a l ih =>
    have hdone := hdone a
    have hstops := hstops a
    rcases hf : f a with ⟨b, - | e⟩ <;> rw [hf] at hdone hstops
    · rw [sweep_cons_of_done hf]
      exact ih.cons (hdone rfl)
    · rw [sweep_cons_of_error hf]
      exact .stopped .nil (hstops e rfl)

/-- What holds of an item that was done or stopped at, and of one that was left alone, holds of all. -/
theorem Swept.forall₂ {R : α → α → Prop} {l l' : List α} {failure : Option ε}
    (h : Swept Done Stops l l' failure) (hdone : ∀ a b, Done a b → R a b)
    (hstops : ∀ a b e, Stops a b e → R a b) (hrefl : ∀ a, R a a) : List.Forall₂ R l l' := by
  cases h with
  | complete h => exact h.imp hdone
  | @stopped before done after a b e hbefore ha =>
    have hafter : List.Forall₂ R after after := List.forall₂_same.2 fun x _ => hrefl x
    exact List.rel_append (hbefore.imp hdone) (.cons (hstops a b e ha) hafter)

end Sweeps

/-! ## Tokens -/

section Tokens

open Escape

variable {t : Token}

theorem unescapeOrKeep_eq_none_iff {t : Text} :
    (unescapeOrKeep t).2 = none ↔ ¬ t.LacksDigits (.ofChar 'u') := by
  rw [← unescape_fails_iff, unescapeOrKeep]
  cases unescape t <;> simp

/-- Unescaping texts in order stops at the first malformed one. -/
theorem textsSwept_sweep (texts : List Text) :
    TextsSwept texts (sweep unescapeOrKeep texts).1 (sweep unescapeOrKeep texts).2 := by
  refine swept_sweep (fun s => ?_) (fun s e => ?_) texts
  · unfold unescapeOrKeep
    cases unescape s with
    | ok t => exact fun _ => rfl
    | error e => exact nofun
  · unfold unescapeOrKeep
    cases unescape s with
    | ok t => exact nofun
    | error e' =>
      rintro ⟨⟩
      exact ⟨rfl, rfl⟩

theorem sweep_toList (t : Option Text) :
    sweep unescapeOrKeep t.toList = ((unescapeOption t).1.toList, (unescapeOption t).2) := by
  cases t with
  | none => rfl
  | some t =>
    rcases h : unescapeOrKeep t with ⟨s, - | e⟩ <;> simp [sweep, unescapeOption, h]

theorem sweep_values (m : OrderedMap Text Text) :
    sweep unescapeOrKeep (m.entries.map Prod.snd) =
      ((unescapeValues m).1.entries.map Prod.snd, (unescapeValues m).2) :=
  sweep_map (f := unescapeEntry) (g := Prod.snd) (fun _ => rfl) m.entries

/-- Texts that were all unescaped have no malformed escapes. -/
theorem Escape.TextsSwept.not_lacksDigits {l l' : List Text} (h : TextsSwept l l' none) :
    ∀ s ∈ l, ¬ s.LacksDigits (.ofChar 'u') := by
  intro s hs
  cases h with
  | complete h =>
    obtain ⟨i, hi, rfl⟩ := List.getElem_of_mem hs
    have hgives := h.get hi (h.length_eq ▸ hi)
    rw [← unescape_fails_iff]
    rintro ⟨e, he⟩
    rw [List.get_eq_getElem, he] at hgives
    cases hgives

/-- Where texts were unescaped up to an error, there is a malformed escape. -/
theorem Escape.TextsSwept.exists_lacksDigits {l l' : List Text} {e : EscapeError}
    (h : TextsSwept l l' (some e)) : ∃ s ∈ l, s.LacksDigits (.ofChar 'u') := by
  cases h with
  | @stopped before done after s _ _ hbefore hstops =>
    exact ⟨s, by simp, unescape_fails_iff.1 ⟨e, hstops.2⟩⟩

namespace Token

/-- **Unescaping a token sweeps its texts in order.** -/
theorem sweep_texts (t : Token) :
    sweep unescapeOrKeep t.texts = (t.unescape.1.texts, t.unescape.2) := by
  cases t with
  | text data => rcases h : unescapeOrKeep data with ⟨s, - | e⟩ <;> simp [sweep, unescape, texts, h]
  | comment data => rcases h : unescapeOrKeep data with ⟨s, - | e⟩ <;> simp [sweep, unescape, texts, h]
  | endTag name => rcases h : unescapeOrKeep name with ⟨s, - | e⟩ <;> simp [sweep, unescape, texts, h]
  | startTag name attributes selfClosing =>
    have hvalues := sweep_values attributes
    rcases h : unescapeOrKeep name with ⟨s, - | e⟩ <;> simp [sweep, unescape, texts, h, hvalues]
  | doctype name publicId systemId forceQuirks =>
    have hname := sweep_toList name
    have hpublic := sweep_toList publicId
    have hsystem := sweep_toList systemId
    rw [texts, sweep_append, sweep_append, hname, hpublic, hsystem, unescape]
    rcases unescapeOption name with ⟨name', - | e⟩
    · rcases unescapeOption publicId with ⟨publicId', - | e⟩ <;> simp [texts]
    · simp [texts]

/-- Unescaping a token fails exactly if an escape in one of its texts is malformed. -/
theorem unescape_eq_none_iff :
    t.unescape.2 = none ↔ ∀ s ∈ t.texts, ¬ s.LacksDigits (.ofChar 'u') := by
  have hfailure : t.unescape.2 = (sweep unescapeOrKeep t.texts).2 := by rw [sweep_texts]
  rw [hfailure, sweep_eq_none_iff]
  exact forall₂_congr fun s _ => unescapeOrKeep_eq_none_iff

theorem textsSwept_unescape (t : Token) : TextsSwept t.texts t.unescape.1.texts t.unescape.2 := by
  have hswept := textsSwept_sweep t.texts
  rw [sweep_texts] at hswept
  exact hswept

theorem isSome_unescapeOption (t : Option Text) : (unescapeOption t).1.isSome = t.isSome := by
  cases t <;> rfl

theorem keys_unescapeValues (m : OrderedMap Text Text) : (unescapeValues m).1.keys = m.keys :=
  map_sweep (fun _ => rfl) m.entries

theorem SameShape.refl (t : Token) : t.SameShape t := by
  cases t with
  | text data => exact .text data data
  | comment data => exact .comment data data
  | startTag name attributes selfClosing => exact .startTag name name selfClosing rfl
  | endTag name => exact .endTag name name
  | doctype name publicId systemId forceQuirks => exact .doctype forceQuirks rfl rfl rfl

/-- Unescaping changes nothing but texts. -/
theorem sameShape_unescape (t : Token) : t.SameShape t.unescape.1 := by
  cases t with
  | text data => exact .text data _
  | comment data => exact .comment data _
  | endTag name => exact .endTag name _
  | startTag name attributes selfClosing =>
    rw [unescape]
    split
    · exact .startTag name _ selfClosing rfl
    · exact .startTag name _ selfClosing (keys_unescapeValues attributes)
  | doctype name publicId systemId forceQuirks =>
    have hname := isSome_unescapeOption name
    have hpublic := isSome_unescapeOption publicId
    have hsystem := isSome_unescapeOption systemId
    rw [unescape]
    rcases h : unescapeOption name with ⟨name', - | e⟩ <;> rw [h] at hname
    · rcases h : unescapeOption publicId with ⟨publicId', - | e⟩ <;> rw [h] at hpublic
      · exact .doctype forceQuirks hname hpublic hsystem
      · exact .doctype forceQuirks hname hpublic rfl
    · exact .doctype forceQuirks hname rfl rfl

end Token

end Tokens

/-! ## Lists -/

namespace TokenEntry

section Lists

variable {x : TokenEntry}

theorem unescape_eq_none_iff : x.unescape.2 = none ↔ ¬ x.Faulty := by
  cases x with
  | token t =>
    have hfaulty : ¬ Faulty (token t) ↔ ∀ s ∈ t.texts, ¬ s.LacksDigits (.ofChar 'u') := by
      simp [Faulty]
    rw [hfaulty, ← Token.unescape_eq_none_iff, unescape, Option.map_eq_none_iff]
  | foreign typeName => simp [unescape, Faulty]

theorem unescaped_unescape (h : x.unescape.2 = none) : Unescaped x x.unescape.1 := by
  cases x with
  | token t =>
    have htexts := t.textsSwept_unescape
    rw [Option.map_eq_none_iff.1 h] at htexts
    exact .token t.sameShape_unescape htexts
  | foreign typeName => cases h

theorem stopsAt_unescape {e : UnescapeFailure} (h : x.unescape.2 = some e) :
    StopsAt x x.unescape.1 e := by
  cases x with
  | token t =>
    have htexts := t.textsSwept_unescape
    obtain ⟨e, he, rfl⟩ := Option.map_eq_some_iff.1 h
    rw [he] at htexts
    exact .malformed t.sameShape_unescape htexts
  | foreign typeName =>
    cases h
    exact .foreign typeName

/-- **A pass over a list stops at its first faulty entry**, and fails exactly if there is one.  What
stands in front of that entry is unescaped, the entry itself is up to its first malformed text, and what
stands behind it is as it was; nothing but texts is changed in any case. -/
theorem unescapeList_stops_at_first (entries : List TokenEntry) :
    ((unescapeList entries).2 ≠ none ↔ ∃ x ∈ entries, x.Faulty) ∧
    Swept Unescaped StopsAt entries (unescapeList entries).1 (unescapeList entries).2 ∧
    (∀ x x', Unescaped x x' → ¬ x.Faulty) ∧
    (∀ x x' e, StopsAt x x' e → x.Faulty) ∧
    List.Forall₂ SameShape entries (unescapeList entries).1 := by
  have hswept : Swept Unescaped StopsAt entries (unescapeList entries).1 (unescapeList entries).2 :=
    swept_sweep (fun x => unescaped_unescape) (fun x e => stopsAt_unescape) entries
  refine ⟨?_, hswept, ?_, ?_, ?_⟩
  · rw [Ne, unescapeList, sweep_eq_none_iff]
    simp [unescape_eq_none_iff]
  · rintro x x' ⟨-, htexts⟩ ⟨s, hs, hlacks⟩
    exact Escape.TextsSwept.not_lacksDigits htexts s hs hlacks
  · rintro x x' e (⟨-, htexts⟩ | ⟨typeName⟩)
    · exact Escape.TextsSwept.exists_lacksDigits htexts
    · trivial
  · refine hswept.forall₂ ?_ ?_ ?_
    · rintro x x' ⟨hshape, -⟩
      exact .token hshape
    · rintro x x' e (⟨hshape, -⟩ | ⟨typeName⟩)
      · exact .token hshape
      · exact .foreign typeName
    · rintro (t | typeName)
      · exact .token (Token.SameShape.refl t)
      · exact .foreign typeName

end Lists

end TokenEntry

end TokenConformance
