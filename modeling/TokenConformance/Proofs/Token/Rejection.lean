import TokenConformance.Proofs.Token.Grammar

/-!
# Rejected records — which defect of a record is reported

`RecordKind.field?` says what the places of a record hold, and `Defect` what is wrong in one of them:
nothing stands there though something must, or what stands there is refused (`Field.Refuses`).  Each item
is reported exactly if its place has a defect (`textItem_eq_error_iff` and the like); what is read from
left to right reports the first such place, and items that are too many only where there is none
(`bind_eq_error_iff_reportedFrom`).  So a value that is no record is `RejectedWith` its leftmost defect
(`ofRecord_rejects_leftmost`).
-/

namespace TokenConformance

open Text (ofString)

/-! ## Definitions -/

section Defs

/-- What a place of a record holds. -/
inductive Field
  | text
  | textOrNull
  | attributes
  | truth
  deriving DecidableEq

/-- What a place behind the kind's name holds. -/
def RecordKind.field? : RecordKind → Nat → Option Field
  | character, 1 | comment, 1 | startTag, 1 | endTag, 1 => some .text
  | startTag, 2 => some .attributes
  | startTag, 3 => some .truth
  | doctype, 1 | doctype, 2 | doctype, 3 => some .textOrNull
  | doctype, 4 => some .truth
  | _, _ => none

/-- The number of items that records of the kind have at least. -/
def RecordKind.least : RecordKind → Nat
  | character | comment | endTag => 2
  | startTag => 3
  | doctype => 5

/-- The number of items that records of the kind have at most. -/
def RecordKind.most : RecordKind → Nat
  | character | comment | endTag => 2
  | startTag => 4
  | doctype => 5

/-- A place refuses a value and blames the value itself or, of an object, the first value in it that is
no text. -/
inductive Field.Refuses : Field → Json → Json → Expected → Prop
  | text {v : Json} (h : ∀ t, v ≠ .str t) : Refuses .text v v .string
  | textOrNull {v : Json} (htext : ∀ t, v ≠ .str t) (hnull : v ≠ .null) :
      Refuses .textOrNull v v .stringOrNull
  | truth {v : Json} (h : ∀ b, v ≠ .bool b) : Refuses .truth v v .boolean
  | attributes {v : Json} (h : ∀ members, v ≠ .obj members) : Refuses .attributes v v .object
  | value {before after : List (Text × Json)} {key : Text} {v : Json}
      (hbefore : ∀ p ∈ before, ∃ t, p.2 = .str t) (h : ∀ t, v ≠ .str t) :
      Refuses .attributes (.obj (before ++ (key, v) :: after)) v .attributeValue

/-- What is wrong at a position of a record of the kind: an item is missing though records have at least
so many, or it is refused. -/
inductive Defect (kind : RecordKind) (items : List Json) (position : Nat) : RecordError → Prop
  | missing (hitem : items.length ≤ position) (hneeded : position < kind.least) :
      Defect kind items position (.invalidLength items.length kind.arity)
  | refused {field : Field} {v blamed : Json} {expected : Expected}
      (hfield : kind.field? position = some field) (hitem : items[position]? = some v)
      (h : field.Refuses v blamed expected) :
      Defect kind items position (.invalidType (some position) blamed expected)

/-- What is reported of the places from a position on: the leftmost defect, and items that are too many
only where there is none. -/
inductive ReportedFrom (kind : RecordKind) (items : List Json) (position : Nat) : RecordError → Prop
  | leftmost {i : Nat} {e : RecordError} (hi : position ≤ i) (hdefect : Defect kind items i e)
      (hfirst : ∀ j, position ≤ j → j < i → ∀ e', ¬ Defect kind items j e') :
      ReportedFrom kind items position e
  | tooMany (hnone : ∀ j, position ≤ j → ∀ e, ¬ Defect kind items j e)
      (hmore : kind.most < items.length) :
      ReportedFrom kind items position (.invalidLength items.length kind.arity)

/-- The error of a value that is no record: it is no array, or empty, or its first item is no text, or
the name of no kind, or what is reported of the places behind the name. -/
inductive RejectedWith : Json → RecordError → Prop
  | noArray {v : Json} (h : ∀ items, v ≠ .arr items) : RejectedWith v (.invalidType none v .array)
  | empty : RejectedWith (.arr []) (.invalidLength 0 .twoOrMore)
  | noText {v : Json} {fields : List Json} (h : ∀ t, v ≠ .str t) :
      RejectedWith (.arr (v :: fields)) (.invalidType (some 0) v .string)
  | noKind {name : Text} {fields : List Json} (h : ∀ kind : RecordKind, ofString kind.name ≠ name) :
      RejectedWith (.arr (.str name :: fields)) (.unknownKind name)
  | fields {kind : RecordKind} {fields : List Json} {e : RecordError}
      (h : ReportedFrom kind (kind.toJson :: fields) 1 e) :
      RejectedWith (.arr (kind.toJson :: fields)) e

end Defs

namespace Token

/-! ## Items -/

section Items

variable {α : Type} {kind : RecordKind} {items : List Json} {position : Nat} {field : Field}
  {e : RecordError}

theorem item_eq_error_iff {arity : Arity} : item items position arity = .error e ↔
    items.length ≤ position ∧ e = .invalidLength items.length arity := by
  unfold item
  by_cases h : items.length ≤ position
  · rw [List.getElem?_eq_none h]
    simp [h, eq_comm]
  · rw [List.getElem?_eq_getElem (Nat.lt_of_not_le h)]
    simp [h]

/-- An item that may not be missing is reported exactly if its place has a defect. -/
theorem bind_item_eq_error_iff {read : Json → Except RecordError α}
    (hfield : kind.field? position = some field)
    (hneeded : items.length ≤ position → position < kind.least)
    (hread : ∀ v e, read v = .error e ↔
      ∃ blamed expected, field.Refuses v blamed expected ∧
        e = .invalidType (some position) blamed expected) :
    (item items position kind.arity >>= read) = .error e ↔ Defect kind items position e := by
  rw [Except.bind_eq_error_iff, item_eq_error_iff]
  constructor
  · rintro (⟨hlength, rfl⟩ | ⟨v, hv, h⟩)
    · exact .missing hlength (hneeded hlength)
    · obtain ⟨blamed, expected, hrefuses, rfl⟩ := (hread v e).1 h
      exact .refused hfield (item_eq_ok_iff.1 hv) hrefuses
  · intro h
    cases h with
    | missing hlength _ => exact Or.inl ⟨hlength, rfl⟩
    | @refused field' v blamed expected hfield' hitem hrefuses =>
      obtain rfl : field = field' := Option.some.inj (hfield.symm.trans hfield')
      exact Or.inr ⟨v, item_eq_ok_iff.2 hitem, (hread v _).2 ⟨blamed, expected, hrefuses, rfl⟩⟩

theorem textItem_eq_error_iff (hfield : kind.field? position = some .text)
    (hneeded : items.length ≤ position → position < kind.least) :
    textItem items position kind.arity = .error e ↔ Defect kind items position e := by
  refine bind_item_eq_error_iff hfield hneeded fun v e => ?_
  constructor
  · intro h
    cases v <;> cases h <;> exact ⟨_, _, .text nofun, rfl⟩
  · rintro ⟨blamed, expected, hrefuses, rfl⟩
    cases hrefuses with
    | text h =>
      cases v with
      | str t => exact absurd rfl (h t)
      | _ => rfl

theorem nullableItem_eq_error_iff (hfield : kind.field? position = some .textOrNull)
    (hneeded : items.length ≤ position → position < kind.least) :
    nullableItem items position kind.arity = .error e ↔ Defect kind items position e := by
  refine bind_item_eq_error_iff hfield hneeded fun v e => ?_
  constructor
  · intro h
    cases v <;> cases h <;> exact ⟨_, _, .textOrNull nofun nofun, rfl⟩
  · rintro ⟨blamed, expected, hrefuses, rfl⟩
    cases hrefuses with
    | textOrNull htext hnull =>
      cases v with
      | str t => exact absurd rfl (htext t)
      | null => exact absurd rfl hnull
      | _ => rfl

theorem boolItem_eq_error_iff (hfield : kind.field? position = some .truth)
    (hneeded : items.length ≤ position → position < kind.least) :
    boolItem items position kind.arity = .error e ↔ Defect kind items position e := by
  refine bind_item_eq_error_iff hfield hneeded fun v e => ?_
  constructor
  · intro h
    cases v <;> cases h <;> exact ⟨_, _, .truth nofun, rfl⟩
  · rintro ⟨blamed, expected, hrefuses, rfl⟩
    cases hrefuses with
    | truth h =>
      cases v with
      | bool b => exact absurd rfl (h b)
      | _ => rfl

/-- The first value among the members of an object that is no text is the one that is reported. -/
theorem addMembers_eq_error_iff : ∀ {members : List (Text × Json)} {attributes : OrderedMap Text Text},
    addMembers position attributes members = .error e ↔
      ∃ before key v after, members = before ++ (key, v) :: after ∧
        (∀ p ∈ before, ∃ t, p.2 = .str t) ∧ (∀ t, v ≠ .str t) ∧
        e = .invalidType (some position) v .attributeValue
  | [], attributes => by
    constructor
    · intro h
      cases h
    · rintro ⟨before, key, v, after, h, -⟩
      exact absurd h (by simp)
  | (key, v) :: members, attributes => by
    constructor
    · intro h
      cases v with
      | str value =>
        have hrest : addMembers position (attributes.insert key.asciiLower value) members =
            .error e := h
        obtain ⟨before, key', v', after, rfl, hbefore, hv', he⟩ := addMembers_eq_error_iff.1 hrest
        have htexts : ∀ p ∈ (key, Json.str value) :: before, ∃ t, p.2 = .str t :=
          List.forall_mem_cons.2 ⟨⟨value, rfl⟩, hbefore⟩
        exact ⟨_, key', v', after, rfl, htexts, hv', he⟩
      | _ =>
        cases h
        exact ⟨[], key, _, members, rfl, by simp, nofun, rfl⟩
    · rintro ⟨before, key', v', after, h, hbefore, hv', he⟩
      cases before with
      | nil =>
        obtain ⟨h, -⟩ := List.cons.inj h
        cases h
        rw [he]
        cases v with
        | str t => exact absurd rfl (hv' t)
        | _ => rfl
      | cons p before =>
        obtain ⟨rfl, rfl⟩ := List.cons.inj h
        obtain ⟨⟨t, ht⟩, hrest⟩ := List.forall_mem_cons.1 hbefore
        obtain rfl : v = .str t := ht
        have hfails : addMembers position (attributes.insert key.asciiLower t)
            (before ++ (key', v') :: after) = .error e :=
          addMembers_eq_error_iff.2 ⟨before, key', v', after, rfl, hrest, hv', he⟩
        exact hfails

theorem attributesItem_eq_error_iff (hfield : kind.field? position = some .attributes)
    (hneeded : items.length ≤ position → position < kind.least) :
    attributesItem items position kind.arity = .error e ↔ Defect kind items position e := by
  refine bind_item_eq_error_iff hfield hneeded fun v e => ?_
  constructor
  · intro h
    cases v with
    | obj members =>
      obtain ⟨before, key, v, after, rfl, hbefore, hv, he⟩ := addMembers_eq_error_iff.1 h
      exact ⟨v, .attributeValue, .value hbefore hv, he⟩
    | _ =>
      cases h
      exact ⟨_, _, .attributes nofun, rfl⟩
  · rintro ⟨blamed, expected, hrefuses, rfl⟩
    cases hrefuses with
    | attributes h =>
      cases v with
      | obj members => exact absurd rfl (h members)
      | _ => rfl
    | @value before after key _ hbefore h =>
      exact addMembers_eq_error_iff.2 ⟨before, key, blamed, after, rfl, hbefore, h, rfl⟩

/-- An item that records need not have may be missing. -/
theorem not_defect_of_length_le (hlength : items.length ≤ position) (hspare : kind.least ≤ position) :
    ¬ Defect kind items position e := by
  intro h
  cases h with
  | missing _ hneeded => omega
  | refused _ hitem _ =>
    rw [List.getElem?_eq_none hlength] at hitem
    cases hitem

end Items

/-! ## From left to right -/

section LeftToRight

variable {α β : Type} {kind : RecordKind} {items : List Json} {position : Nat} {e : RecordError}

/-- The first defect from a position on is there, or it is the first one from the next position on. -/
theorem reportedFrom_iff : ReportedFrom kind items position e ↔
    Defect kind items position e ∨
      (∀ e', ¬ Defect kind items position e') ∧ ReportedFrom kind items (position + 1) e := by
  constructor
  · intro h
    cases h with
    | @leftmost i e hi hdefect hfirst =>
      rcases Nat.eq_or_lt_of_le hi with rfl | hlt
      · exact Or.inl hdefect
      · have hrest : ∀ j, position + 1 ≤ j → j < i → ∀ e', ¬ Defect kind items j e' :=
          fun j hj hji => hfirst j (by omega) hji
        exact Or.inr ⟨hfirst position (Nat.le_refl _) hlt, .leftmost hlt hdefect hrest⟩
    | tooMany hnone hmore =>
      have hrest : ∀ j, position + 1 ≤ j → ∀ e', ¬ Defect kind items j e' :=
        fun j hj => hnone j (by omega)
      exact Or.inr ⟨hnone position (Nat.le_refl _), .tooMany hrest hmore⟩
  · rintro (hdefect | ⟨hhere, h⟩)
    · exact .leftmost (Nat.le_refl _) hdefect fun j hj hlt => by omega
    · cases h with
      | @leftmost i e hi hdefect hfirst =>
        refine .leftmost (by omega) hdefect fun j hj hji => ?_
        rcases Nat.eq_or_lt_of_le hj with rfl | hlt
        · exact hhere
        · exact hfirst j hlt hji
      | tooMany hnone hmore =>
        refine .tooMany (fun j hj => ?_) hmore
        rcases Nat.eq_or_lt_of_le hj with rfl | hlt
        · exact hhere
        · exact hnone j hlt

/-- A step that reports a place, in front of steps that report from the next place on. -/
theorem bind_eq_error_iff_reportedFrom {x : Except RecordError α} {f : α → Except RecordError β}
    (hx : ∀ e, x = .error e ↔ Defect kind items position e)
    (hf : ∀ a, f a = .error e ↔ ReportedFrom kind items (position + 1) e) :
    (x >>= f) = .error e ↔ ReportedFrom kind items position e := by
  rw [reportedFrom_iff, Except.bind_eq_error_iff, hx]
  refine or_congr_right ?_
  cases h : x with
  | error e' =>
    have hdefect := (hx e').1 h
    constructor
    · rintro ⟨a, ha, -⟩
      cases ha
    · rintro ⟨hnone, -⟩
      exact absurd hdefect (hnone e')
  | ok a =>
    have hnone : ∀ e', ¬ Defect kind items position e' := by
      intro e' hdefect
      rw [(hx e').2 hdefect] at h
      cases h
    constructor
    · rintro ⟨a', ha, hfails⟩
      exact ⟨hnone, (hf a').1 hfails⟩
    · rintro ⟨-, hrest⟩
      exact ⟨a, rfl, (hf a).2 hrest⟩

theorem lt_most_of_field? {field : Field} (h : kind.field? position = some field) :
    position < kind.most := by
  unfold RecordKind.field? at h
  split at h <;> cases h <;> decide

/-- Behind the last place there are no defects. -/
theorem not_defect_of_most_le (h : kind.most ≤ position) : ¬ Defect kind items position e := by
  intro hdefect
  cases hdefect with
  | missing _ hneeded =>
    have hle : kind.least ≤ kind.most := by cases kind <;> decide
    omega
  | refused hfield _ _ =>
    have hlt := lt_most_of_field? hfield
    omega

/-- Once all places are in order, what is left to report are items that are too many. -/
theorem noMore_eq_error_iff {a : β} (hposition : position = kind.most) :
    (noMore items position kind.arity >>= fun _ => pure a) = .error e ↔
      ReportedFrom kind items position e := by
  have hnone : ∀ j, position ≤ j → ∀ e', ¬ Defect kind items j e' :=
    fun j hj e' => not_defect_of_most_le (hposition ▸ hj)
  have hreported : ReportedFrom kind items position e ↔
      position < items.length ∧ e = .invalidLength items.length kind.arity := by
    rw [hposition] at hnone ⊢
    constructor
    · intro h
      cases h with
      | @leftmost i _ hi hdefect _ => exact absurd hdefect (hnone i hi e)
      | tooMany _ hmore => exact ⟨hmore, rfl⟩
    · rintro ⟨hmore, rfl⟩
      exact .tooMany hnone hmore
  rw [hreported, Except.bind_eq_error_iff]
  unfold noMore
  by_cases hmore : position < items.length
  · simp [hmore, eq_comm]
  · simp [hmore, pure, Except.pure]

end LeftToRight

/-! ## Records -/

section Records

variable {kind : RecordKind} {items fields : List Json} {e : RecordError} {v : Json}

/-- The items of a record of a known kind are reported from the first place on. -/
theorem ofFields_eq_error_iff :
    ofFields kind items = .error e ↔ ReportedFrom kind items 1 e := by
  cases kind with
  | character =>
    exact bind_eq_error_iff_reportedFrom (fun _ => textItem_eq_error_iff rfl fun _ => by decide)
      fun data => noMore_eq_error_iff rfl
  | comment =>
    exact bind_eq_error_iff_reportedFrom (fun _ => textItem_eq_error_iff rfl fun _ => by decide)
      fun data => noMore_eq_error_iff rfl
  | endTag =>
    exact bind_eq_error_iff_reportedFrom (fun _ => textItem_eq_error_iff rfl fun _ => by decide)
      fun name => noMore_eq_error_iff rfl
  | startTag =>
    refine bind_eq_error_iff_reportedFrom (fun _ => textItem_eq_error_iff rfl fun _ => by decide)
      fun name => ?_
    refine bind_eq_error_iff_reportedFrom
      (fun _ => attributesItem_eq_error_iff rfl fun _ => by decide) fun attributes => ?_
    -- the last item is looked at only if it is there
    by_cases hlength : items.length ≤ 3
    · have hnone : ∀ e, ¬ Defect .startTag items 3 e :=
        fun _ => not_defect_of_length_le hlength (by decide)
      simp only [if_pos hlength]
      exact bind_eq_error_iff_reportedFrom (fun e => iff_of_false nofun (hnone e))
        fun selfClosing => noMore_eq_error_iff rfl
    · simp only [if_neg hlength]
      exact bind_eq_error_iff_reportedFrom
        (fun _ => boolItem_eq_error_iff rfl fun h => absurd h hlength)
        fun selfClosing => noMore_eq_error_iff rfl
  | doctype =>
    refine bind_eq_error_iff_reportedFrom
      (fun _ => nullableItem_eq_error_iff rfl fun _ => by decide) fun name => ?_
    refine bind_eq_error_iff_reportedFrom
      (fun _ => nullableItem_eq_error_iff rfl fun _ => by decide) fun publicId => ?_
    refine bind_eq_error_iff_reportedFrom
      (fun _ => nullableItem_eq_error_iff rfl fun _ => by decide) fun systemId => ?_
    exact bind_eq_error_iff_reportedFrom (fun _ => boolItem_eq_error_iff rfl fun _ => by decide)
      fun correct => noMore_eq_error_iff rfl

theorem ofName?_eq_none_iff {name : Text} :
    RecordKind.ofName? name = none ↔ ∀ kind : RecordKind, ofString kind.name ≠ name := by
  rw [Option.eq_none_iff_forall_ne_some]
  exact forall_congr' fun kind => not_congr ofName?_eq_some_iff

theorem ofRecord_eq_error_iff : ofRecord v = .error e ↔ RejectedWith v e := by
  constructor
  · intro h
    cases v with
    | arr items =>
      cases items with
      | nil =>
        cases h
        exact .empty
      | cons k fields =>
        cases k with
        | str name =>
          rw [ofRecord] at h
          cases hkind : RecordKind.ofName? name with
          | none =>
            rw [hkind] at h
            cases h
            exact .noKind (ofName?_eq_none_iff.1 hkind)
          | some kind =>
            rw [hkind] at h
            obtain rfl := ofName?_eq_some_iff.1 hkind
            exact .fields (ofFields_eq_error_iff.1 h)
        | _ =>
          cases h
          refine .noText fun t ht => ?_
          cases ht
    | _ =>
      cases h
      refine .noArray fun items hitems => ?_
      cases hitems
  · intro h
    cases h with
    | noArray hv =>
      cases v with
      | arr items => exact absurd rfl (hv items)
      | _ => rfl
    | empty => rfl
    | @noText k _ hk =>
      cases k with
      | str t => exact absurd rfl (hk t)
      | _ => rfl
    | noKind hname => rw [ofRecord, ofName?_eq_none_iff.2 hname]
    | @fields kind fields e h =>
      rw [RecordKind.toJson, ofRecord, ofName?_eq_some_iff.2 rfl]
      exact ofFields_eq_error_iff.2 h

/-- **A value that is no record is rejected with its leftmost defect**, and with nothing else; of an array
of records the first one that is rejected gives the error. -/
theorem ofRecord_rejects_leftmost :
    (∀ v e, ofRecord v = .error e ↔ RejectedWith v e) ∧
      ∀ records e, ofRecords (.arr records) = .error e ↔
        ∃ before v after, records = before ++ v :: after ∧
          (∀ r ∈ before, ∃ t, ofRecord r = .ok t) ∧ ofRecord v = .error e :=
  ⟨fun _ _ => ofRecord_eq_error_iff, fun _ _ => Except.mapM_eq_error_iff_first⟩

/-- A start tag that is refused in two places and has an item too many. -/
example : ofRecord (.arr [RecordKind.startTag.toJson, .str (ofString "a"),
    .obj [(ofString "x", .str []), (ofString "y", .int 1)], .null, .null]) =
      .error (.invalidType (some 2) (.int 1) .attributeValue) := rfl

end Records

end Token

end TokenConformance
