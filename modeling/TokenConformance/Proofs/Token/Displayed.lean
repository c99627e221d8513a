import TokenConformance.Proofs.Json.Displayed
import TokenConformance.Proofs.Token.Sameness
import TokenConformance.Token.Record

/-!
# Displayed tokens — different tokens are printed differently

The record of a token has all of the token in it (`toRecord_injective`), and no number
(`numberFree_toRecord`), so its display says which token it is, whatever counts as printable
(`displayWith_toRecord_injective`).  Records are shown line by line, and the lines can be told from one
another again, so lists of tokens are printed differently as well (`recordLines_injective`).
-/

namespace TokenConformance

/-! ## Definitions -/

namespace Token

section Defs

/-- The kind of a token's record. -/
def recordKind : Token → RecordKind
  | text _ => .character
  | comment _ => .comment
  | startTag .. => .startTag
  | endTag _ => .endTag
  | doctype .. => .doctype

/-- What the record of a token has behind its kind. -/
def recordFields : Token → List Json
  | text data => [.str data]
  | comment data => [.str data]
  | startTag name attributes selfClosing =>
    [.str name, attributesToJson attributes] ++ if selfClosing then [.bool true] else []
  | endTag name => [.str name]
  | doctype name publicId systemId forceQuirks =>
    [.ofOption name, .ofOption publicId, .ofOption systemId, .bool !forceQuirks]

/-- The records of tokens as reports show them, one on each line. -/
def recordLines (printable : CodePoint → Bool) (tokens : List Token) : Text :=
  Text.join (Text.ofString "\n") (tokens.map fun t => t.toRecord.displayWith printable)

end Defs

end Token

/-! ## Parts of records -/

section Parts

theorem RecordKind.toJson_injective : Function.Injective RecordKind.toJson := by
  intro kind kind' h
  have hname : Text.ofString kind.name = Text.ofString kind'.name := Json.str.inj h
  cases kind <;> cases kind' <;> first | rfl | exact absurd hname (by decide)

theorem Json.ofOption_injective : Function.Injective Json.ofOption := by
  intro t t' h
  cases t <;> cases t' <;> cases h <;> rfl

theorem Json.numberFree_ofOption (t : Option Text) : (Json.ofOption t).NumberFree := by
  cases t with
  | none => exact .null
  | some t => exact .str t

theorem Token.attributesToJson_injective : Function.Injective Token.attributesToJson := by
  intro attributes attributes' h
  have hmember : Function.Injective fun p : Text × Text => (p.1, Json.str p.2) := by
    rintro ⟨key, value⟩ ⟨key', value'⟩ h
    cases h
    rfl
  exact OrderedMap.eq_of_entries_eq (hmember.list_map (Json.obj.inj h))

theorem Token.numberFree_attributesToJson (attributes : OrderedMap Text Text) :
    (Token.attributesToJson attributes).NumberFree := by
  refine .obj fun p hp => ?_
  obtain ⟨q, -, rfl⟩ := List.mem_map.1 hp
  exact .str q.2

end Parts

/-! ## Records -/

namespace Token

section Records

theorem toRecord_eq (t : Token) : t.toRecord = .arr (t.recordKind.toJson :: t.recordFields) := by
  cases t <;> rfl

theorem toRecord_injective : Function.Injective toRecord := by
  intro s t h
  rw [toRecord_eq, toRecord_eq, Json.arr.injEq, List.cons_eq_cons] at h
  obtain ⟨hkind, hfields⟩ := h
  have hkind := RecordKind.toJson_injective hkind
  cases s with
  | text data =>
    cases t with
    | text data' =>
      cases hfields
      rfl
    | _ => cases hkind
  | comment data =>
    cases t with
    | comment data' =>
      cases hfields
      rfl
    | _ => cases hkind
  | startTag name attributes selfClosing =>
    cases t with
    | startTag name' attributes' selfClosing' =>
      simp only [recordFields, List.cons_append, List.nil_append, List.cons_eq_cons, Json.str.injEq]
        at hfields
      obtain ⟨rfl, hattributes, hlast⟩ := hfields
      -- the fourth item is there only for tags that close themselves
      have hclosing : selfClosing = selfClosing' := by
        cases selfClosing <;> cases selfClosing' <;> first | rfl | cases hlast
      rw [attributesToJson_injective hattributes, hclosing]
    | _ => cases hkind
  | endTag name =>
    cases t with
    | endTag name' =>
      cases hfields
      rfl
    | _ => cases hkind
  | doctype name publicId systemId forceQuirks =>
    cases t with
    | doctype name' publicId' systemId' forceQuirks' =>
      simp only [recordFields, List.cons_eq_cons, and_true, Json.bool.injEq, Bool.not_inj_iff] at hfields
      obtain ⟨hname, hpublic, hsystem, rfl⟩ := hfields
      rw [Json.ofOption_injective hname, Json.ofOption_injective hpublic,
        Json.ofOption_injective hsystem]
    | _ => cases hkind

theorem numberFree_toRecord (t : Token) : t.toRecord.NumberFree := by
  rw [toRecord_eq]
  refine .arr (List.forall_mem_cons.2 ⟨.str _, ?_⟩)
  cases t with
  | text data => simpa [recordFields] using Json.NumberFree.str data
  | comment data => simpa [recordFields] using Json.NumberFree.str data
  | startTag name attributes selfClosing =>
    have hlast : ∀ v ∈ if selfClosing then [Json.bool true] else [], v.NumberFree := by
      cases selfClosing
      · exact nofun
      · simpa using Json.NumberFree.bool true
    simp only [recordFields, List.forall_mem_append, List.forall_mem_cons]
    exact ⟨⟨.str name, numberFree_attributesToJson attributes, nofun⟩, hlast⟩
  | endTag name => simpa [recordFields] using Json.NumberFree.str name
  | doctype name publicId systemId forceQuirks =>
    simp only [recordFields, List.forall_mem_cons]
    exact ⟨Json.numberFree_ofOption name, Json.numberFree_ofOption publicId,
      Json.numberFree_ofOption systemId, .bool _, nofun⟩

end Records

/-! ## Displays -/

section Displays

variable (printable : CodePoint → Bool)

/-- **Tokens that differ are printed differently**, whatever counts as printable. -/
theorem displayWith_toRecord_injective :
    Function.Injective fun t : Token => t.toRecord.displayWith printable := by
  intro s t heq
  refine toRecord_injective ?_
  have htold := (numberFree_toRecord s).toldApart printable _ (numberFree_toRecord t)
  exact (htold [] [] (congrArg (· ++ []) heq)).1

example : (text (Text.ofString "\n")).displayRecord = Text.ofString "['Character', '\\n']" ∧
    (text (Text.ofString "\\n")).displayRecord = Text.ofString "['Character', '\\\\n']" := by
  decide

theorem recordLines_injective : Function.Injective (recordLines printable) := by
  refine Text.join_map_injective (displayWith_toRecord_injective printable)
    (fun t => (numberFree_toRecord t).newline_notMem) fun t hnil => ?_
  obtain ⟨c, rest, hdisplay, -⟩ := (numberFree_toRecord t).exists_displayWith printable
  rw [hdisplay] at hnil
  cases hnil

theorem displayWith_toRecord_ne {s t : Token} (h : s.same t = false) :
    s.toRecord.displayWith printable ≠ t.toRecord.displayWith printable := by
  intro heq
  rw [displayWith_toRecord_injective printable heq, same_self] at h
  cases h

theorem recordLines_ne {ss ts : List Token} (h : sameList ss ts = false) :
    recordLines printable ss ≠ recordLines printable ts := by
  intro heq
  rw [recordLines_injective printable heq, sameList_self] at h
  cases h

end Displays

end Token

end TokenConformance
