import TokenConformance.Proofs.Suite.UnescapePass

/-!
# Malformed escapes in a file — when a double-escaped test is no test

The loader looks for escapes in its input and, once they are read, in its tokens
(`Token.unescape_eq_none_iff`).  Reading lowers names and drops the attribute values that a later value
takes the place of, so `RecordForm.Faulty` says of a record as it stands in the file whether its token
will fail (`exists_lacksDigits_iff_faulty`).  A double-escaped test with a malformed escape is refused,
and no other is (`ofEntry_of_escapes`).
-/

namespace TokenConformance

/-! ## Definitions -/

section Defs

namespace RecordForm

/-- The tag or doctype name of a record. -/
def name? : RecordForm → Option Text
  | startTag name _ _ => some name
  | endTag name => some name
  | doctype name _ _ _ => name
  | character _ | comment _ => none

/-- All texts of a record but its attribute names. -/
def rawTexts : RecordForm → List Text
  | character data => [data]
  | comment data => [data]
  | startTag name members _ => name :: members.map Prod.snd
  | endTag name => [name]
  | doctype name publicId systemId _ => name.toList ++ publicId.toList ++ systemId.toList

/-- A text of a record that reading keeps as it is: its data, an identifier, or an attribute value
that no later one takes the place of. -/
inductive Keeps : RecordForm → Text → Prop
  | character (data : Text) : Keeps (.character data) data
  | comment (data : Text) : Keeps (.comment data) data
  | value {name key value : Text} {members before after : List (Text × Text)}
      {selfClosing : Option Bool} (hmembers : members = before ++ (key, value) :: after)
      (hafter : ∀ p ∈ after, p.1.asciiLower ≠ key.asciiLower) :
      Keeps (.startTag name members selfClosing) value
  | publicId (name systemId : Option Text) (correct : Bool) (publicId : Text) :
      Keeps (.doctype name (some publicId) systemId correct) publicId
  | systemId (name publicId : Option Text) (correct : Bool) (systemId : Text) :
      Keeps (.doctype name publicId (some systemId) correct) systemId

/-- An escape in a record is malformed: digits are wanting behind a backslash and `u`, or behind a
backslash and `U` in a name, which is lowered before its escapes are looked for. -/
def Faulty (form : RecordForm) : Prop :=
  (∃ t, form.Keeps t ∧ t.LacksDigits (.ofChar 'u')) ∨
    ∃ name ∈ form.name?, name.LacksDigits (.ofChar 'u') ∨ name.LacksDigits (.ofChar 'U')

end RecordForm

/-- A step is refused for a malformed escape if `P`, and gives something otherwise. -/
def RefusedIf {α : Type} (x : Except TestError α) (P : Prop) : Prop :=
  (∃ e, x = .error (.escape e)) ∧ P ∨ (∃ a, x = .ok a) ∧ ¬ P

end Defs

/-! ## Records -/

section Records

variable {form : RecordForm} {t : Token}

/-- The attribute values that a start tag has are those that no later value takes the place of. -/
theorem mem_values_iff {name s : Text} {members : List (Text × Text)} {selfClosing : Option Bool}
    {attributes : OrderedMap Text Text} (h : CollapsedTo members attributes) :
    s ∈ attributes.entries.map Prod.snd ↔ RecordForm.Keeps (.startTag name members selfClosing) s := by
  constructor
  · intro hs
    obtain ⟨⟨key, value⟩, hentry, rfl⟩ := List.mem_map.1 hs
    obtain ⟨before, name', after, hmembers, hkey, hafter⟩ :=
      (h.value key value).1 (OrderedMap.get?_eq_some_iff.2 hentry)
    refine .value hmembers fun p hp hsame => hafter p hp ?_
    rw [Text.loweredTo_iff, hsame]
    exact Text.loweredTo_iff.1 hkey
  · intro hs
    cases hs with
    | @value _ key _ _ before after _ hmembers hafter =>
      have hget : attributes.get? key.asciiLower = some s := by
        refine (h.value key.asciiLower s).2 ⟨before, key, after, hmembers, Text.loweredTo_iff.2 rfl, ?_⟩
        intro p hp hlowered
        exact hafter p hp (Text.loweredTo_iff.1 hlowered).symm
      exact List.mem_map.2 ⟨_, OrderedMap.get?_eq_some_iff.1 hget, rfl⟩

/-- The texts of a token are those that its record keeps, and its name in small letters. -/
theorem mem_texts_iff (h : form.Gives t) {s : Text} :
    s ∈ t.texts ↔ form.Keeps s ∨ ∃ name ∈ form.name?, s = name.asciiLower := by
  cases h with
  | character data =>
    have hkeeps : RecordForm.Keeps (.character data) s ↔ s = data :=
      ⟨fun hs => by cases hs; rfl, fun hs => hs ▸ .character data⟩
    simp [Token.texts, RecordForm.name?, hkeeps]
  | comment data =>
    have hkeeps : RecordForm.Keeps (.comment data) s ↔ s = data :=
      ⟨fun hs => by cases hs; rfl, fun hs => hs ▸ .comment data⟩
    simp [Token.texts, RecordForm.name?, hkeeps]
  | startTag selfClosing hname hmembers =>
    simp [Token.texts, RecordForm.name?, Text.loweredTo_iff.1 hname, ← mem_values_iff hmembers,
      or_comm]
  | endTag hname =>
    have hkeeps : ∀ name, ¬ RecordForm.Keeps (.endTag name) s := fun name hs => by cases hs
    simp [Token.texts, RecordForm.name?, Text.loweredTo_iff.1 hname, hkeeps]
  | @doctype name lowered publicId systemId correct hname =>
    have hkeeps : RecordForm.Keeps (.doctype name publicId systemId correct) s ↔
        s ∈ publicId ∨ s ∈ systemId := by
      constructor
      · intro hs
        cases hs with
        | publicId => exact .inl rfl
        | systemId => exact .inr rfl
      · rintro (hs | hs)
        · cases hs
          exact .publicId name systemId correct s
        · cases hs
          exact .systemId name publicId correct s
    rw [hkeeps, option_loweredTo_iff.1 hname]
    simp [Token.texts, RecordForm.name?, eq_comm, or_comm]

/-- **A record is faulty exactly if its token has a text with a malformed escape.** -/
theorem exists_lacksDigits_iff_faulty (h : form.Gives t) :
    (∃ s ∈ t.texts, s.LacksDigits (.ofChar 'u')) ↔ form.Faulty := by
  have hname : (∃ s, (∃ name ∈ form.name?, s = name.asciiLower) ∧ s.LacksDigits (.ofChar 'u')) ↔
      ∃ name ∈ form.name?, name.LacksDigits (.ofChar 'u') ∨ name.LacksDigits (.ofChar 'U') := by
    constructor
    · rintro ⟨s, ⟨name, hmem, rfl⟩, hlacks⟩
      exact ⟨name, hmem, Text.lacksDigits_asciiLower_iff.1 hlacks⟩
    · rintro ⟨name, hmem, hlacks⟩
      exact ⟨_, ⟨name, hmem, rfl⟩, Text.lacksDigits_asciiLower_iff.2 hlacks⟩
  simp only [mem_texts_iff h, or_and_right, exists_or, hname]
  exact Iff.rfl

end Records

/-! ## Steps -/

namespace RefusedIf

section Steps

variable {α β : Type} {x : Except TestError α} {f : α → Except TestError β} {P Q : Prop}

/-- The second of two steps is taken if the first one is not refused. -/
theorem bind (hx : RefusedIf x P) (hf : ∀ a, RefusedIf (f a) Q) : RefusedIf (x >>= f) (P ∨ Q) := by
  rcases hx with ⟨⟨e, rfl⟩, hP⟩ | ⟨⟨a, rfl⟩, hP⟩
  · exact .inl ⟨⟨e, rfl⟩, .inl hP⟩
  · rcases hf a with ⟨hrefused, hQ⟩ | ⟨hgives, hQ⟩
    · exact .inl ⟨hrefused, .inr hQ⟩
    · exact .inr ⟨hgives, not_or.2 ⟨hP, hQ⟩⟩

/-- What is refused gives nothing. -/
theorem iff (hx : RefusedIf x P) :
    ((∃ e, x = .error (.escape e)) ↔ P) ∧ ((∃ a, x = .ok a) ↔ ¬ P) := by
  rcases hx with ⟨⟨e, rfl⟩, hP⟩ | ⟨⟨a, rfl⟩, hP⟩
  · refine ⟨iff_of_true ⟨e, rfl⟩ hP, iff_of_false ?_ (not_not_intro hP)⟩
    rintro ⟨a, ha⟩
    cases ha
  · refine ⟨iff_of_false ?_ hP, iff_of_true ⟨a, rfl⟩ hP⟩
    rintro ⟨e, he⟩
    cases he

end Steps

end RefusedIf

theorem refusedIf_ok {α : Type} (a : α) : RefusedIf (.ok a) False := .inr ⟨⟨a, rfl⟩, not_false⟩

/-! ## Tests -/

section Tests

open Text (ofString)

variable {forms : List RecordForm}

/-- Records of any forms are read, and the tokens have a malformed escape exactly if a record is
faulty. -/
theorem exists_ofRecords : ∀ forms : List RecordForm, ∃ tokens,
    Token.ofRecords (.arr (forms.map RecordForm.toJson)) = .ok tokens ∧
      ((∃ t ∈ tokens, ∃ s ∈ t.texts, s.LacksDigits (.ofChar 'u')) ↔ ∃ form ∈ forms, form.Faulty)
  | [] => ⟨[], rfl, by simp⟩
  | form :: forms => by
    obtain ⟨t, hgives⟩ := Token.exists_gives form
    have hread : Token.ofRecord form.toJson = .ok t := Token.ofRecord_eq_ok_iff.2 ⟨form, rfl, hgives⟩
    obtain ⟨tokens, htokens, hfaulty⟩ := exists_ofRecords forms
    have hreads : (forms.map RecordForm.toJson).mapM Token.ofRecord = .ok tokens := htokens
    refine ⟨t :: tokens, ?_, ?_⟩
    · rw [List.map_cons, Token.ofRecords, List.mapM_cons, hread, hreads]
      rfl
    · rw [List.exists_mem_cons_iff, List.exists_mem_cons_iff, hfaulty,
        exists_lacksDigits_iff_faulty hgives]

namespace TestCase

variable {members : List (Text × Json)} {input : Text} {output flag : Json}
  {states : List TokenizerState}

theorem refusedIf_unescapeInput (t : Text) :
    RefusedIf (unescapeInput (.str t)) (t.LacksDigits (.ofChar 'u')) := by
  rw [← Escape.unescape_fails_iff, unescapeInput]
  cases Escape.unescape t with
  | error e => exact .inl ⟨⟨e, rfl⟩, e, rfl⟩
  | ok u =>
    refine .inr ⟨⟨_, rfl⟩, ?_⟩
    rintro ⟨e, he⟩
    cases he

theorem refusedIf_unescapeExpected (tokens : List Token) :
    RefusedIf (unescapeExpected tokens)
      (∃ t ∈ tokens, ∃ s ∈ t.texts, s.LacksDigits (.ofChar 'u')) := by
  have hswept : (Token.unescapeList tokens).2 = none ↔
      ¬ ∃ t ∈ tokens, ∃ s ∈ t.texts, s.LacksDigits (.ofChar 'u') := by
    simp [Token.unescapeList, sweep_eq_none_iff, Token.unescape_eq_none_iff]
  unfold unescapeExpected
  rcases hlist : Token.unescapeList tokens with ⟨out, - | e⟩
  · exact .inr ⟨⟨out, rfl⟩, hswept.1 (by rw [hlist])⟩
  · refine .inl ⟨⟨e, rfl⟩, ?_⟩
    by_contra hnone
    have hfailure := hswept.2 hnone
    rw [hlist] at hfailure
    cases hfailure

/-- A double-escaped test is made of its input and its tokens once both are unescaped. -/
theorem exists_ofEntry_eq_bind {tokens : List Token}
    (hinput : Json.member? (ofString "input") members = some (.str input))
    (houtput : Json.member? (ofString "output") members = some output)
    (htokens : Token.ofRecords output = .ok tokens)
    (hflag : Json.member? (ofString "doubleEscaped") members = some flag)
    (htruthy : flag.isTruthy = true)
    (hstates : statesOf ((Json.member? (ofString "initialStates") members).getD .null) =
      .ok states) :
    ∃ make : Json → List Token → TestCase, ofEntry (.obj members) =
      (unescapeInput (.str input) >>= fun v => unescapeExpected tokens >>= fun out =>
        .ok (make v out)) := by
  have hflagged : (Json.member? (ofString "doubleEscaped") members).any Json.isTruthy = true := by
    rw [hflag]
    exact htruthy
  refine ⟨fun v out => ⟨(Json.member? (ofString "description") members).getD (.str []), v, out, states,
    (Json.member? (ofString "lastStartTag") members).getD .null, true,
    (Json.member? (ofString "errors") members).getD (.arr [])⟩, ?_⟩
  rw [ofEntry, ofMembers, required, required, hinput, houtput, hflagged, hstates]
  simp only [htokens, bind, Except.bind, Except.mapError, if_true]
  rfl

/-- **The escape errors of a double-escaped test are the malformed escapes of its file**: the test is
refused for one exactly if there is one in the input or a record is faulty, and loaded otherwise. -/
theorem ofEntry_of_escapes
    (hinput : Json.member? (ofString "input") members = some (.str input))
    (houtput : Json.member? (ofString "output") members =
      some (.arr (forms.map RecordForm.toJson)))
    (hflag : Json.member? (ofString "doubleEscaped") members = some flag)
    (htruthy : flag.isTruthy = true)
    (hstates : statesOf ((Json.member? (ofString "initialStates") members).getD .null) =
      .ok states) :
    ((∃ e, ofEntry (.obj members) = .error (.escape e)) ↔
        input.LacksDigits (.ofChar 'u') ∨ ∃ form ∈ forms, form.Faulty) ∧
      ((∃ test, ofEntry (.obj members) = .ok test) ↔
        ¬ (input.LacksDigits (.ofChar 'u') ∨ ∃ form ∈ forms, form.Faulty)) := by
  obtain ⟨tokens, htokens, hfaulty⟩ := exists_ofRecords forms
  obtain ⟨make, hmade⟩ := exists_ofEntry_eq_bind hinput houtput htokens hflag htruthy hstates
  have hexpected := fun v => (refusedIf_unescapeExpected tokens).bind fun out => refusedIf_ok (make v out)
  have hrefused := (refusedIf_unescapeInput input).bind hexpected
  rw [or_false, hfaulty, ← hmade] at hrefused
  exact hrefused.iff

/-- A double-escaped test without an input that expects records of the forms. -/
def emptyTest (forms : List RecordForm) : List (Text × Json) :=
  [(ofString "input", .str []), (ofString "output", .arr (forms.map RecordForm.toJson)),
    (ofString "doubleEscaped", .bool true)]

/-- An attribute value with a malformed escape that another value takes the place of. -/
def replacedValue : List RecordForm :=
  [.startTag (ofString "a") [(ofString "X", ofString "\\u"), (ofString "x", [])] none]

/-- A name that is an escape, and a malformed one, in small letters only. -/
def capitalName : List RecordForm := [.endTag (ofString "\\U")]

theorem ofEntry_of_escapes_capitalName :
    ∃ e, ofEntry (.obj (emptyTest capitalName)) = .error (.escape e) := by
  have hinput : Json.member? (ofString "input") (emptyTest capitalName) = some (.str []) := rfl
  have houtput : Json.member? (ofString "output") (emptyTest capitalName) =
      some (.arr (capitalName.map RecordForm.toJson)) := rfl
  have hflag : Json.member? (ofString "doubleEscaped") (emptyTest capitalName) =
      some (.bool true) := rfl
  have hstates : statesOf ((Json.member? (ofString "initialStates")
      (emptyTest capitalName)).getD .null) = .ok [.data] := rfl
  have hfaulty : RecordForm.Faulty (.endTag (ofString "\\U")) :=
    .inr ⟨_, rfl, .inr (by decide)⟩
  obtain ⟨hfails, -⟩ := ofEntry_of_escapes hinput houtput hflag rfl hstates
  exact hfails.2 (.inr ⟨_, List.mem_singleton_self _, hfaulty⟩)

/-- It is not the texts of the records as they stand in which a malformed escape is an error. -/
theorem ofEntry_of_replacedValue_of_capitalName :
    ((∃ form ∈ replacedValue, ∃ t ∈ form.rawTexts, t.LacksDigits (.ofChar 'u')) ∧
        ∃ test, ofEntry (.obj (emptyTest replacedValue)) = .ok test) ∧
      ¬ (Text.LacksDigits (.ofChar 'u') [] ∨
          ∃ form ∈ capitalName, ∃ t ∈ form.rawTexts, t.LacksDigits (.ofChar 'u')) ∧
        ∃ e, ofEntry (.obj (emptyTest capitalName)) = .error (.escape e) :=
  ⟨⟨by decide, _, rfl⟩, by decide, _, rfl⟩

end TestCase

end Tests

end TokenConformance
