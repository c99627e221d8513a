import TokenConformance.Proofs.OrderedMapLaws
import TokenConformance.Token.Reader

/-!
# Reading a written record — a token comes back with its names lowered

The record of a token is a record: reading it succeeds (`ofRecord_toRecord`), and gives the token
with its tag or doctype name and its attribute names lowered (`Token.lowered`).  Names without
capital letters are lowered already (`asciiLower_of_notUpper`, `lowerKeys_of_notUpper`).
-/

namespace TokenConformance

/-! ### Lowering -/

section Lowering

theorem Text.asciiLower_of_notUpper {t : Text} (h : t.any CodePoint.isUpper = false) :
    t.asciiLower = t := by
  refine (List.map_congr_left fun c hc => ?_).trans (List.map_id' t)
  have hc : ¬ c.isUpper = true := List.any_eq_false.1 h c hc
  rw [CodePoint.asciiLower, if_neg hc]

/-- Attributes with their names lowered; of names that become the same the last value counts. -/
def lowerKeys (attributes : OrderedMap Text Text) : OrderedMap Text Text :=
  OrderedMap.ofList (attributes.entries.map fun p => (p.1.asciiLower, p.2))

theorem lowerKeys_of_notUpper {attributes : OrderedMap Text Text}
    (h : ∀ key ∈ attributes.keys, key.any CodePoint.isUpper = false) :
    lowerKeys attributes = attributes := by
  have hsame : (attributes.entries.map fun p => (p.1.asciiLower, p.2)) = attributes.entries := by
    refine (List.map_congr_left fun p hp => ?_).trans (List.map_id' _)
    rw [Text.asciiLower_of_notUpper (h p.1 (List.mem_map_of_mem hp))]
  refine OrderedMap.eq_of_entries_eq ?_
  rw [lowerKeys, hsame, OrderedMap.entries_ofList attributes.nodup]

end Lowering

/-! ### Records -/

namespace Token

section Records

/-- The token as it is read from its own record. -/
def lowered : Token → Token
  | startTag name attributes selfClosing => startTag name.asciiLower (lowerKeys attributes) selfClosing
  | endTag name => endTag name.asciiLower
  | doctype name publicId systemId forceQuirks =>
    doctype (name.map Text.asciiLower) publicId systemId forceQuirks
  | t => t

theorem addMembers_of_texts (position : ℕ) : ∀ (entries : List (Text × Text))
    (attributes : OrderedMap Text Text),
    addMembers position attributes (entries.map fun p => (p.1, .str p.2)) =
      .ok (entries.foldl (fun m p => m.insert p.1.asciiLower p.2) attributes)
  | [], _ => rfl
  | (key, value) :: entries, attributes => by
    rw [List.map_cons, addMembers, addMembers_of_texts position entries]
    rfl

/-- An object with texts for its values is read as attributes. -/
theorem attributesItem_of_texts {items : List Json} {position : ℕ} {members : List (Text × Text)}
    (h : items[position]? = some (.obj (members.map fun p => (p.1, .str p.2)))) (arity : Arity) :
    attributesItem items position arity =
      .ok (OrderedMap.ofList (members.map fun p => (p.1.asciiLower, p.2))) := by
  have hadd : addMembers position ∅ (members.map fun p => (p.1, .str p.2)) =
      .ok (OrderedMap.ofList (members.map fun p => (p.1.asciiLower, p.2))) := by
    rw [addMembers_of_texts, OrderedMap.ofList, List.foldl_map]
  unfold attributesItem item
  rw [h]
  exact hadd

/-- **A record that was written is read**, and the names in it are lowered. -/
theorem ofRecord_toRecord (t : Token) : ofRecord t.toRecord = .ok t.lowered := by
  cases t with
  | text data => rfl
  | comment data => rfl
  | endTag name => rfl
  | doctype name publicId systemId forceQuirks =>
    cases name <;> cases publicId <;> cases systemId <;> cases forceQuirks <;> rfl
  | startTag name attributes selfClosing =>
    have hattributes : ∀ (kind : Json) (last : List Json), attributesItem
        (kind :: .str name :: attributesToJson attributes :: last) 2 RecordKind.startTag.arity =
          .ok (lowerKeys attributes) := by
      intro kind last
      exact attributesItem_of_texts rfl _
    cases selfClosing
    · show ofFields .startTag [_, .str name, attributesToJson attributes] = _
      rw [ofFields, hattributes _ []]
      rfl
    · show ofFields .startTag [_, .str name, attributesToJson attributes, .bool true] = _
      rw [ofFields, hattributes _ [.bool true]]
      rfl

theorem ofRecords_toRecord (tokens : List Token) :
    ofRecords (.arr (tokens.map toRecord)) = .ok (tokens.map lowered) := by
  have hrecord : ofRecord ∘ toRecord = fun t => pure t.lowered := funext ofRecord_toRecord
  rw [ofRecords, List.mapM_map, hrecord, List.mapM_pure]
  rfl

end Records

end Token

end TokenConformance
