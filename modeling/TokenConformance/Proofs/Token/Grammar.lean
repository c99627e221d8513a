import Mathlib.Data.List.Forall2
import TokenConformance.Proofs.ExceptLaws
import TokenConformance.Proofs.Token.RecordLaws

/-!
# The grammar of records — which values are records, and what each of them stands for

`RecordForm` lists the forms of records, and `RecordForm.Gives` says what token a form stands for,
without the reader: names are `LoweredTo` other names, and the members of an object are `CollapsedTo`
attributes.  The reader accepts the values that have a form and no others, and gives what the form
stands for (`ofRecord_accepts_forms`).  Each item of a record is looked at by itself
(`textItem_eq_ok_iff` and the like), then the items of one kind together (`ofFields_eq_ok_iff`).
-/

namespace TokenConformance

open Text (ofString)

/-! ## Definitions -/

section Defs

/-- The second text is the first one with `A` to `Z` made small, and nothing else. -/
def Text.LoweredTo (s t : Text) : Prop :=
  List.Forall₂ (fun c d => d.val = if 0x41 ≤ c.val ∧ c.val ≤ 0x5A then c.val + 0x20 else c.val) s t

/-- The members of an object collapse to attributes: of the names that are lowered to a key the first
gives the key its place, and the last its value. -/
structure CollapsedTo (members : List (Text × Text)) (attributes : OrderedMap Text Text) : Prop where
  keys : ∃ names, List.Forall₂ (fun p name => p.1.LoweredTo name) members names ∧
    attributes.keys = names.eraseDups
  value : ∀ key value, attributes.get? key = some value ↔
    ∃ before name after, members = before ++ (name, value) :: after ∧ name.LoweredTo key ∧
      ∀ p ∈ after, ¬ p.1.LoweredTo key

/-- The forms of records.  A start tag may lack its last item. -/
inductive RecordForm
  | character (data : Text)
  | comment (data : Text)
  | startTag (name : Text) (members : List (Text × Text)) (selfClosing : Option Bool)
  | endTag (name : Text)
  | doctype (name publicId systemId : Option Text) (correct : Bool)

namespace RecordForm

/-- The items behind the name of the kind. -/
def fields : RecordForm → List Json
  | character data => [.str data]
  | comment data => [.str data]
  | startTag name members selfClosing =>
    [.str name, .obj (members.map fun p => (p.1, .str p.2))] ++ (selfClosing.map Json.bool).toList
  | endTag name => [.str name]
  | doctype name publicId systemId correct =>
    [.ofOption name, .ofOption publicId, .ofOption systemId, .bool correct]

/-- The kind that the first item names. -/
def kind : RecordForm → RecordKind
  | character _ => .character
  | comment _ => .comment
  | startTag _ _ _ => .startTag
  | endTag _ => .endTag
  | doctype _ _ _ _ => .doctype

/-- The array that has the form. -/
def toJson (form : RecordForm) : Json := .arr (form.kind.toJson :: form.fields)

/-- A record of the form stands for the token. -/
inductive Gives : RecordForm → Token → Prop
  | character (data : Text) : Gives (.character data) (.text data)
  | comment (data : Text) : Gives (.comment data) (.comment data)
  | startTag {name lowered : Text} {members : List (Text × Text)}
      {attributes : OrderedMap Text Text} (selfClosing : Option Bool)
      (hname : name.LoweredTo lowered) (hmembers : CollapsedTo members attributes) :
      Gives (.startTag name members selfClosing)
        (.startTag lowered attributes (selfClosing.getD false))
  | endTag {name lowered : Text} (hname : name.LoweredTo lowered) :
      Gives (.endTag name) (.endTag lowered)
  | doctype {name lowered : Option Text} (publicId systemId : Option Text) (correct : Bool)
      (hname : Option.Rel Text.LoweredTo name lowered) :
      Gives (.doctype name publicId systemId correct) (.doctype lowered publicId systemId !correct)

end RecordForm

end Defs

/-! ## Names -/

section Names

/-- A relation that is a function relates two lists where it maps one to the other. -/
theorem forall₂_iff_eq_map {α β : Type} {R : α → β → Prop} {f : α → β}
    (hR : ∀ a b, R a b ↔ b = f a) {l : List α} {m : List β} :
    List.Forall₂ R l m ↔ m = l.map f := by
  have hflip : List.Forall₂ R l m ↔ List.Forall₂ Eq m (l.map f) := by
    rw [List.forall₂_map_right_iff]
    constructor
    · intro h
      exact h.flip.imp fun b a hab => (hR a b).1 hab
    · intro h
      exact h.flip.imp fun a b hab => (hR a b).2 hab
  rw [hflip, List.forall₂_eq_eq_eq]

theorem CodePoint.val_asciiLower (c : CodePoint) :
    c.asciiLower.val = if 0x41 ≤ c.val ∧ c.val ≤ 0x5A then c.val + 0x20 else c.val := by
  have hupper : c.isUpper = true ↔ 0x41 ≤ c.val ∧ c.val ≤ 0x5A := by
    simp [isUpper]
  by_cases hc : c.isUpper = true
  · have hrange := hupper.1 hc
    have hsum : (c + 32 : CodePoint).val = (c.val + 32) % 0x110000 := rfl
    rw [asciiLower, if_pos hc, if_pos hrange, hsum]
    omega
  · rw [asciiLower, if_neg hc, if_neg (hupper.not.1 hc)]

theorem Text.loweredTo_iff {s t : Text} : s.LoweredTo t ↔ t = s.asciiLower := by
  refine forall₂_iff_eq_map fun c d => ?_
  rw [← CodePoint.val_asciiLower, Fin.ext_iff]

theorem option_loweredTo_iff {s t : Option Text} :
    Option.Rel Text.LoweredTo s t ↔ t = s.map Text.asciiLower := by
  constructor
  · intro h
    cases h with
    | none => rfl
    | some h => exact congrArg some (Text.loweredTo_iff.1 h)
  · rintro rfl
    cases s with
    | none => exact .none
    | some s => exact .some (Text.loweredTo_iff.2 rfl)

/-- Attributes with their names lowered hold the value of the last member for each key. -/
theorem get?_lowered_iff {members : List (Text × Text)} {key value : Text} :
    (OrderedMap.ofList (members.map fun p => (p.1.asciiLower, p.2))).get? key = some value ↔
      ∃ before name after, members = before ++ (name, value) :: after ∧ name.LoweredTo key ∧
        ∀ p ∈ after, ¬ p.1.LoweredTo key := by
  have hafter : ∀ after : List (Text × Text),
      key ∉ (after.map fun p => (p.1.asciiLower, p.2)).map Prod.fst ↔
        ∀ p ∈ after, ¬ p.1.LoweredTo key := by
    intro after
    simp [Text.loweredTo_iff, eq_comm]
  rw [OrderedMap.get?_ofList_eq_some_iff]
  constructor
  · rintro ⟨before, after, h, hkey⟩
    obtain ⟨before, rest, rfl, rfl, hrest⟩ := List.map_eq_append_iff.1 h
    obtain ⟨p, after, rfl, hp, rfl⟩ := List.map_eq_cons_iff.1 hrest
    obtain ⟨hname, rfl⟩ := Prod.mk.inj hp
    exact ⟨before, p.1, after, rfl, Text.loweredTo_iff.2 hname.symm, (hafter after).1 hkey⟩
  · rintro ⟨before, name, after, rfl, hname, hkey⟩
    refine ⟨before.map fun p => (p.1.asciiLower, p.2), after.map fun p => (p.1.asciiLower, p.2), ?_,
      (hafter after).2 hkey⟩
    rw [List.map_append, List.map_cons, Text.loweredTo_iff.1 hname]

/-- The members of an object collapse to attributes in one way. -/
theorem collapsedTo_iff {members : List (Text × Text)} {attributes : OrderedMap Text Text} :
    CollapsedTo members attributes ↔
      attributes = OrderedMap.ofList (members.map fun p => (p.1.asciiLower, p.2)) := by
  have hnames : ∀ names, List.Forall₂ (fun p name => p.1.LoweredTo name) members names ↔
      names = members.map fun p => p.1.asciiLower := fun names =>
    forall₂_iff_eq_map fun p _ => Text.loweredTo_iff (s := p.1)
  have hkeys : (OrderedMap.ofList (members.map fun p => (p.1.asciiLower, p.2))).keys =
      (members.map fun p => p.1.asciiLower).eraseDups := by
    rw [OrderedMap.keys_ofList, List.map_map]
    rfl
  constructor
  · rintro ⟨⟨names, hlowered, hattributes⟩, hvalue⟩
    refine OrderedMap.eq_of_keys_eq ?_ fun key => ?_
    · rw [hattributes, hkeys, (hnames names).1 hlowered]
    · refine Option.ext fun value => ?_
      rw [hvalue, get?_lowered_iff]
  · rintro rfl
    exact ⟨⟨_, (hnames _).2 rfl, hkeys⟩, fun key value => get?_lowered_iff⟩

/-- The name that comes twice keeps its first place and takes its last value. -/
example : CollapsedTo
    [(ofString "X", ofString "1"), (ofString "y", ofString "2"), (ofString "x", ofString "3")]
    ⟨[(ofString "x", ofString "3"), (ofString "y", ofString "2")], by decide⟩ :=
  collapsedTo_iff.2 (by decide)

end Names

/-! ## Items -/

namespace Token

section Items

variable {items : List Json} {position size : Nat} {arity : Arity}

theorem item_eq_ok_iff {v : Json} :
    item items position arity = .ok v ↔ items[position]? = some v := by
  unfold item
  cases items[position]? <;> simp

/-- An item is read exactly if what is written for the result stands there. -/
theorem bind_item_eq_ok_iff {α : Type} {read : Json → Except RecordError α} {written : α → Json}
    (hread : ∀ v a, read v = .ok a ↔ v = written a) {a : α} :
    (item items position arity >>= read) = .ok a ↔ items[position]? = some (written a) := by
  rw [Except.bind_eq_ok_iff]
  constructor
  · rintro ⟨v, hv, h⟩
    rw [← (hread v a).1 h]
    exact item_eq_ok_iff.1 hv
  · intro h
    exact ⟨written a, item_eq_ok_iff.2 h, (hread (written a) a).2 rfl⟩

theorem textItem_eq_ok_iff {t : Text} :
    textItem items position arity = .ok t ↔ items[position]? = some (.str t) := by
  refine bind_item_eq_ok_iff fun v t => ⟨fun h => ?_, fun h => by rw [h]; rfl⟩
  cases v <;> cases h
  rfl

theorem nullableItem_eq_ok_iff {t : Option Text} :
    nullableItem items position arity = .ok t ↔ items[position]? = some (.ofOption t) := by
  refine bind_item_eq_ok_iff fun v t => ⟨fun h => ?_, fun h => by rw [h]; cases t <;> rfl⟩
  cases v <;> cases h <;> rfl

theorem boolItem_eq_ok_iff {b : Bool} :
    boolItem items position arity = .ok b ↔ items[position]? = some (.bool b) := by
  refine bind_item_eq_ok_iff fun v b => ⟨fun h => ?_, fun h => by rw [h]; rfl⟩
  cases v <;> cases h
  rfl

/-- Members are added exactly if all their values are texts. -/
theorem exists_texts_of_addMembers : ∀ {members : List (Text × Json)}
    {before attributes : OrderedMap Text Text},
    addMembers position before members = .ok attributes →
      ∃ texts : List (Text × Text), members = texts.map fun p => (p.1, .str p.2)
  | [], _, _, _ => ⟨[], rfl⟩
  | (key, v) :: members, before, attributes, h => by
    cases v with
    | str value =>
      have hrest : addMembers position (before.insert key.asciiLower value) members =
          .ok attributes := h
      obtain ⟨texts, rfl⟩ := exists_texts_of_addMembers hrest
      exact ⟨(key, value) :: texts, rfl⟩
    | _ => cases h

theorem attributesItem_eq_ok_iff {attributes : OrderedMap Text Text} :
    attributesItem items position arity = .ok attributes ↔
      ∃ members, items[position]? = some (.obj (members.map fun p => (p.1, .str p.2))) ∧
        CollapsedTo members attributes := by
  constructor
  · intro hread
    have hobject : ∃ members : List (Text × Text), items[position]? =
        some (.obj (members.map fun p => (p.1, .str p.2))) := by
      obtain ⟨v, hv, h⟩ := Except.bind_eq_ok_iff.1 hread
      rw [item_eq_ok_iff] at hv
      cases v with
      | obj members =>
        obtain ⟨texts, rfl⟩ := exists_texts_of_addMembers h
        exact ⟨texts, hv⟩
      | _ => cases h
    obtain ⟨members, h⟩ := hobject
    refine ⟨members, h, collapsedTo_iff.2 ?_⟩
    rw [attributesItem_of_texts h] at hread
    exact (Except.ok.inj hread).symm
  · rintro ⟨members, h, hcollapsed⟩
    rw [attributesItem_of_texts h, collapsedTo_iff.1 hcollapsed]

theorem noMore_eq_ok_iff {u : Unit} :
    noMore items size arity = .ok u ↔ items.length ≤ size := by
  unfold noMore
  split <;> simp <;> omega

end Items

/-! ## Records -/

section Records

variable {fields : List Json} {t : Token} {v : Json} {arity : Arity}

theorem ofName?_eq_some_iff {name : Text} {kind : RecordKind} :
    RecordKind.ofName? name = some kind ↔ ofString kind.name = name := by
  constructor
  · intro h
    simpa using List.find?_some h
  · rintro rfl
    cases kind <;> decide +kernel

/-- Items that stand one after another from a position on, with nothing behind them, are all that is
left from there. -/
theorem drop_eq_of_items {items vs : List Json} {n : Nat}
    (hitems : List.Forall₂ (fun position v => items[position]? = some v)
      (List.range' n vs.length) vs)
    (hlength : items.length ≤ n + vs.length) : items.drop n = vs := by
  induction vs generalizing n with
  | nil => exact List.drop_eq_nil_of_le hlength
  | cons v vs ih =>
    obtain ⟨hv, hrest⟩ := List.forall₂_cons.1 hitems
    obtain ⟨hn, rfl⟩ := List.getElem?_eq_some_iff.1 hv
    have hbehind : items.drop (n + 1) = vs := by
      refine ih hrest ?_
      rw [List.length_cons] at hlength
      omega
    rw [List.drop_eq_getElem_cons hn, hbehind]

/-- The fields of a record are the items behind the first one, when there are no others. -/
theorem fields_eq_of_items {k : Json} {vs : List Json}
    (hitems : List.Forall₂ (fun position v => (k :: fields)[position]? = some v)
      (List.range' 1 vs.length) vs)
    (hlength : (k :: fields).length ≤ 1 + vs.length) : fields = vs :=
  drop_eq_of_items hitems hlength

/-- The items of a record of a known kind give a token exactly if they are of a form. -/
theorem ofFields_eq_ok_iff {kind : RecordKind} {k : Json} :
    ofFields kind (k :: fields) = .ok t ↔
      ∃ form : RecordForm, form.kind = kind ∧ form.fields = fields ∧ form.Gives t := by
  constructor
  · intro h
    cases kind with
    | character =>
      simp only [ofFields, Except.bind_eq_ok_iff, textItem_eq_ok_iff, noMore_eq_ok_iff] at h
      obtain ⟨data, hdata, _, hlength, ht⟩ := h
      cases ht
      have hfields : fields = [.str data] := fields_eq_of_items (.cons hdata .nil) hlength
      exact ⟨.character data, rfl, hfields.symm, .character data⟩
    | comment =>
      simp only [ofFields, Except.bind_eq_ok_iff, textItem_eq_ok_iff, noMore_eq_ok_iff] at h
      obtain ⟨data, hdata, _, hlength, ht⟩ := h
      cases ht
      have hfields : fields = [.str data] := fields_eq_of_items (.cons hdata .nil) hlength
      exact ⟨.comment data, rfl, hfields.symm, .comment data⟩
    | startTag =>
      simp only [ofFields, Except.bind_eq_ok_iff, textItem_eq_ok_iff, attributesItem_eq_ok_iff] at h
      obtain ⟨name, hname, attributes, ⟨members, hmembers, hcollapsed⟩, h⟩ := h
      have hlowered : name.LoweredTo name.asciiLower := Text.loweredTo_iff.2 rfl
      split at h
      · rename_i hlength
        obtain ⟨b, hb, h⟩ := Except.bind_eq_ok_iff.1 h
        obtain ⟨_, -, h⟩ := Except.bind_eq_ok_iff.1 h
        cases hb
        cases h
        have hfields : fields = [.str name, .obj (members.map fun p => (p.1, .str p.2))] :=
          fields_eq_of_items (.cons hname (.cons hmembers .nil)) hlength
        exact ⟨.startTag name members none, rfl, hfields.symm, .startTag none hlowered hcollapsed⟩
      · simp only [Except.bind_eq_ok_iff, boolItem_eq_ok_iff, noMore_eq_ok_iff] at h
        obtain ⟨selfClosing, hlast, _, hlength, h⟩ := h
        cases h
        have hfields : fields =
            [.str name, .obj (members.map fun p => (p.1, .str p.2)), .bool selfClosing] :=
          fields_eq_of_items (.cons hname (.cons hmembers (.cons hlast .nil))) hlength
        exact ⟨.startTag name members (some selfClosing), rfl, hfields.symm,
          .startTag (some selfClosing) hlowered hcollapsed⟩
    | endTag =>
      simp only [ofFields, Except.bind_eq_ok_iff, textItem_eq_ok_iff, noMore_eq_ok_iff] at h
      obtain ⟨name, hname, _, hlength, ht⟩ := h
      cases ht
      have hfields : fields = [.str name] := fields_eq_of_items (.cons hname .nil) hlength
      exact ⟨.endTag name, rfl, hfields.symm, .endTag (Text.loweredTo_iff.2 rfl)⟩
    | doctype =>
      simp only [ofFields, Except.bind_eq_ok_iff, nullableItem_eq_ok_iff, boolItem_eq_ok_iff,
        noMore_eq_ok_iff] at h
      obtain ⟨name, hname, publicId, hpublic, systemId, hsystem, correct, hcorrect, _, hlength,
        ht⟩ := h
      cases ht
      have hfields : fields =
          [.ofOption name, .ofOption publicId, .ofOption systemId, .bool correct] :=
        fields_eq_of_items (.cons hname (.cons hpublic (.cons hsystem (.cons hcorrect .nil)))) hlength
      exact ⟨.doctype name publicId systemId correct, rfl, hfields.symm,
        .doctype publicId systemId correct (option_loweredTo_iff.2 rfl)⟩
  · rintro ⟨form, rfl, rfl, hgives⟩
    cases hgives with
    | character data => rfl
    | comment data => rfl
    | endTag hname =>
      rw [Text.loweredTo_iff.1 hname]
      rfl
    | @doctype name lowered publicId systemId correct hname =>
      rw [option_loweredTo_iff.1 hname]
      cases name <;> cases publicId <;> cases systemId <;> rfl
    | @startTag name lowered members attributes selfClosing hname hmembers =>
      have hattributes : ∀ last : List Json, attributesItem
          (k :: .str name :: .obj (members.map fun p => (p.1, .str p.2)) :: last) 2
            RecordKind.startTag.arity = .ok attributes := by
        intro last
        exact attributesItem_eq_ok_iff.2 ⟨members, rfl, hmembers⟩
      rw [Text.loweredTo_iff.1 hname]
      cases selfClosing with
      | none =>
        show ofFields .startTag [k, .str name, .obj _] = _
        rw [ofFields, hattributes []]
        rfl
      | some b =>
        show ofFields .startTag [k, .str name, .obj _, .bool b] = _
        rw [ofFields, hattributes [.bool b]]
        rfl

/-- A record names its kind by its first item. -/
theorem ofRecord_cons {k : Json} :
    ofRecord (.arr (k :: fields)) = .ok t ↔
      ∃ kind : RecordKind, k = kind.toJson ∧ ofFields kind (k :: fields) = .ok t := by
  constructor
  · intro h
    cases k with
    | str name =>
      rw [ofRecord] at h
      split at h
      · rename_i kind hkind
        exact ⟨kind, congrArg Json.str (ofName?_eq_some_iff.1 hkind).symm, h⟩
      · cases h
    | _ => cases h
  · rintro ⟨kind, rfl, h⟩
    rw [RecordKind.toJson, ofRecord, ofName?_eq_some_iff.2 rfl]
    exact h

theorem ofRecord_eq_ok_iff :
    ofRecord v = .ok t ↔ ∃ form : RecordForm, form.toJson = v ∧ form.Gives t := by
  constructor
  · intro h
    cases v with
    | arr items =>
      cases items with
      | nil => cases h
      | cons k fields =>
        obtain ⟨kind, rfl, h⟩ := ofRecord_cons.1 h
        obtain ⟨form, rfl, rfl, hgives⟩ := ofFields_eq_ok_iff.1 h
        exact ⟨form, rfl, hgives⟩
    | _ => cases h
  · rintro ⟨form, rfl, hgives⟩
    rw [RecordForm.toJson, ofRecord_cons]
    exact ⟨form.kind, rfl, ofFields_eq_ok_iff.2 ⟨form, rfl, rfl, hgives⟩⟩

/-- Every form stands for a token. -/
theorem exists_gives (form : RecordForm) : ∃ t, form.Gives t := by
  cases form with
  | character data => exact ⟨_, .character data⟩
  | comment data => exact ⟨_, .comment data⟩
  | startTag name members selfClosing =>
    exact ⟨_, .startTag selfClosing (Text.loweredTo_iff.2 rfl) (collapsedTo_iff.2 rfl)⟩
  | endTag name => exact ⟨_, .endTag (Text.loweredTo_iff.2 rfl)⟩
  | doctype name publicId systemId correct =>
    exact ⟨_, .doctype publicId systemId correct (option_loweredTo_iff.2 rfl)⟩

/-- **The reader accepts the values that have a form and no others, and gives the token that the form
stands for.** -/
theorem ofRecord_accepts_forms (v : Json) :
    ((∃ t, ofRecord v = .ok t) ↔ ∃ form : RecordForm, form.toJson = v) ∧
      ∀ t, ofRecord v = .ok t ↔ ∃ form : RecordForm, form.toJson = v ∧ form.Gives t := by
  refine ⟨?_, fun t => ofRecord_eq_ok_iff⟩
  constructor
  · rintro ⟨t, h⟩
    obtain ⟨form, hform, -⟩ := ofRecord_eq_ok_iff.1 h
    exact ⟨form, hform⟩
  · rintro ⟨form, hform⟩
    obtain ⟨t, hgives⟩ := exists_gives form
    exact ⟨t, ofRecord_eq_ok_iff.2 ⟨form, hform, hgives⟩⟩

end Records

end Token

end TokenConformance
