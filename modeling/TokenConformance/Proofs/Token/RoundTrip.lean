import TokenConformance.Proofs.Token.Grammar

/-!
# Writing and reading again — which tokens come back as they were

A token that is written as a record and read again comes back with its names lowered
(`ofRecord_toRecord`).  Lowering leaves no capital letter (`noCapitals_asciiLower`), so the token comes
back as it was exactly if its tag or doctype name and its attribute names have none
(`lowered_eq_self_iff`), and no other token comes back the same by another order of its attributes
(`same_lowered_iff`).  Tokens that were read from a record have none (`noCapitals_of_gives`).
-/

namespace TokenConformance

/-! ## Definitions -/

section Defs

/-- The names of a token that reading lowers: that of a tag or doctype, and those of attributes. -/
def Token.names : Token → List Text
  | startTag name attributes _ => name :: attributes.keys
  | endTag name => [name]
  | doctype name _ _ _ => name.toList
  | text _ | comment _ => []

/-- No letter from `A` to `Z` is in the text. -/
def Text.NoCapitals (t : Text) : Prop := ∀ c ∈ t, c.isUpper = false

instance (t : Text) : Decidable t.NoCapitals := inferInstanceAs (Decidable (∀ c ∈ t, _))

end Defs

/-! ## Names -/

section Names

variable {attributes : OrderedMap Text Text}

theorem CodePoint.isUpper_asciiLower (c : CodePoint) : c.asciiLower.isUpper = false := by
  have hval := CodePoint.val_asciiLower c
  rw [isUpper, Bool.and_eq_false_iff, decide_eq_false_iff_not, decide_eq_false_iff_not]
  split at hval <;> omega

theorem Text.noCapitals_asciiLower (t : Text) : t.asciiLower.NoCapitals := by
  intro c hc
  obtain ⟨d, -, rfl⟩ := List.mem_map.1 hc
  exact d.isUpper_asciiLower

theorem Text.NoCapitals.any_isUpper {t : Text} (h : t.NoCapitals) :
    t.any CodePoint.isUpper = false := by
  rw [List.any_eq_false]
  intro c hc
  rw [h c hc]
  exact Bool.false_ne_true

theorem Text.asciiLower_eq_self_iff {t : Text} : t.asciiLower = t ↔ t.NoCapitals := by
  constructor
  · intro h
    rw [← h]
    exact t.noCapitals_asciiLower
  · intro h
    exact asciiLower_of_notUpper h.any_isUpper

/-- Names that were lowered have no capital letters. -/
theorem noCapitals_of_mem_keys {members : List (Text × Text)} {key : Text}
    (h : key ∈ (OrderedMap.ofList (members.map fun p => (p.1.asciiLower, p.2))).keys) :
    key.NoCapitals := by
  rw [OrderedMap.keys_ofList, List.mem_eraseDups, List.map_map] at h
  obtain ⟨p, -, rfl⟩ := List.mem_map.1 h
  exact p.1.noCapitals_asciiLower

theorem lowerKeys_eq_self_iff :
    lowerKeys attributes = attributes ↔ ∀ key ∈ attributes.keys, key.NoCapitals := by
  constructor
  · intro h key hkey
    rw [← h] at hkey
    exact noCapitals_of_mem_keys hkey
  · intro h
    exact lowerKeys_of_notUpper fun key hkey => (h key hkey).any_isUpper

/-- Attributes with a capital letter in a name are not even similar to what they are lowered to: the
lowered ones have no such name. -/
theorem similar_lowerKeys_iff : attributes.similar (lowerKeys attributes) = true ↔
    ∀ key ∈ attributes.keys, key.NoCapitals := by
  constructor
  · intro h key hkey
    obtain ⟨p, hp, rfl⟩ := List.mem_map.1 hkey
    rw [OrderedMap.similar, Bool.and_eq_true, List.all_eq_true] at h
    have hfound : (lowerKeys attributes).get? p.1 = some p.2 := eq_of_beq (h.2 p hp)
    have hmem : p.1 ∈ (lowerKeys attributes).keys :=
      List.mem_map_of_mem (OrderedMap.get?_eq_some_iff.1 hfound)
    exact noCapitals_of_mem_keys hmem
  · intro h
    rw [lowerKeys_eq_self_iff.2 h]
    exact OrderedMap.similar_of_perm (List.Perm.refl _)

end Names

/-! ## Tokens -/

namespace Token

section Tokens

variable {t : Token}

theorem lowered_eq_self_iff : t.lowered = t ↔ ∀ name ∈ t.names, name.NoCapitals := by
  cases t with
  | text data => simp [lowered, names]
  | comment data => simp [lowered, names]
  | startTag name attributes selfClosing =>
    simp [lowered, names, Text.asciiLower_eq_self_iff, lowerKeys_eq_self_iff]
  | endTag name => simp [lowered, names, Text.asciiLower_eq_self_iff]
  | doctype name publicId systemId forceQuirks =>
    cases name with
    | none => simp [lowered, names]
    | some name => simp [lowered, names, Text.asciiLower_eq_self_iff]

/-- That tokens are the same in whatever order their attributes stand makes no difference here. -/
theorem same_lowered_iff : t.same t.lowered = true ↔ ∀ name ∈ t.names, name.NoCapitals := by
  cases t with
  | startTag name attributes selfClosing =>
    simp [lowered, names, same, similar_lowerKeys_iff, eq_comm (a := name),
      Text.asciiLower_eq_self_iff]
  | _ =>
    rw [← lowered_eq_self_iff]
    exact beq_iff_eq.trans eq_comm

end Tokens

/-! ## Records -/

section Records

variable {form : RecordForm} {t : Token}

/-- What a record stands for has no capital letters in its names. -/
theorem noCapitals_of_gives (h : form.Gives t) : ∀ name ∈ t.names, name.NoCapitals := by
  cases h with
  | character data => simp [names]
  | comment data => simp [names]
  | @startTag name lowered members attributes selfClosing hname hmembers =>
    rw [Text.loweredTo_iff.1 hname, collapsedTo_iff.1 hmembers]
    intro key hkey
    rcases List.mem_cons.1 hkey with rfl | hkey
    · exact name.noCapitals_asciiLower
    · exact noCapitals_of_mem_keys hkey
  | endTag hname =>
    rw [Text.loweredTo_iff.1 hname]
    intro key hkey
    rw [List.mem_singleton.1 hkey]
    exact Text.noCapitals_asciiLower _
  | doctype publicId systemId correct hname =>
    rw [option_loweredTo_iff.1 hname]
    intro key hkey
    obtain ⟨name, -, rfl⟩ := Option.map_eq_some_iff.1 (Option.mem_toList.1 hkey)
    exact name.noCapitals_asciiLower

/-- **Reading what was written gives a token back** exactly if its names have no capital letters, the
order of attributes regarded or not.  The tokens that are read from records come back as they were. -/
theorem ofRecord_toRecord_eq_self_iff (t : Token) :
    (∃ u, ofRecord t.toRecord = .ok u ∧ (u = t ↔ ∀ name ∈ t.names, name.NoCapitals) ∧
      (t.same u = true ↔ ∀ name ∈ t.names, name.NoCapitals)) ∧
    ∀ v, ofRecord v = .ok t → ofRecord t.toRecord = .ok t := by
  refine ⟨⟨t.lowered, ofRecord_toRecord t, lowered_eq_self_iff, same_lowered_iff⟩, ?_⟩
  intro v hv
  obtain ⟨form, -, hgives⟩ := ofRecord_eq_ok_iff.1 hv
  rw [ofRecord_toRecord, lowered_eq_self_iff.2 (noCapitals_of_gives hgives)]

/-- Names that differ in letter case alone become one name. -/
example : ofRecord (toRecord (.startTag [] ⟨[([0x41], [0x31]), ([0x61], [0x32])], by decide⟩ true)) =
    .ok (.startTag [] ⟨[([0x61], [0x32])], by decide⟩ true) := rfl

end Records

end Token

end TokenConformance
