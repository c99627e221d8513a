import TokenConformance.Proofs.Reference.Nulls

/-!
# Replacing nulls — before references are decoded or after it

A null and the U+FFFD in its place are alike to a reference: neither of them is a digit or in a name,
and no name is another one in front of them.  So the same references are found once nulls are replaced
(`recognise_replaceNulls`), and what they stand for has no nulls to replace.  It makes no difference
which of the two is done first (`decode_replaceNulls`), in text and in attribute values
(`decode_commutes_with_replaceNulls`).
-/

namespace TokenConformance

/-! ## Code points -/

section CodePoints

/-- U+FFFD for a null, and any other code point itself. -/
def CodePoint.replaceNull (c : CodePoint) : CodePoint := if c = 0 then .replacement else c

variable {s t : Text}

/-- What does not tell nulls from U+FFFD does not see that a null is replaced. -/
theorem CodePoint.apply_replaceNull {α : Type} {p : CodePoint → α} (h : p .replacement = p 0)
    (c : CodePoint) : p c.replaceNull = p c := by
  by_cases hc : c = 0
  · rw [hc]
    exact h
  · rw [replaceNull, if_neg hc]

theorem Text.replaceNulls_cons (c : CodePoint) (t : Text) :
    Text.replaceNulls (c :: t) = c.replaceNull :: t.replaceNulls := rfl

theorem Text.replaceNulls_append (s t : Text) :
    Text.replaceNulls (s ++ t) = s.replaceNulls ++ t.replaceNulls := List.map_append

/-- A text with neither nulls nor U+FFFD comes of no other text when nulls are replaced. -/
theorem Text.eq_replaceNulls_iff (hnull : 0 ∉ s) (hreplacement : .replacement ∉ s) :
    s = t.replaceNulls ↔ s = t := by
  constructor
  · rintro rfl
    exact Text.replaceNulls_eq_self hreplacement
  · rintro rfl
    exact (Text.replaceNulls_of_notMem hnull).symm

/-- Replacing nulls makes no difference to what is there besides nulls and what replaces them. -/
theorem Text.related_replaceNulls_iff {R : Text → Text → Prop}
    (hR : R s t.replaceNulls ↔ ∃ raw, R raw t ∧ s = Text.replaceNulls raw) (hnull : 0 ∉ s)
    (hreplacement : .replacement ∉ s) : R s t.replaceNulls ↔ R s t := by
  rw [hR]
  constructor
  · rintro ⟨raw, hraw, hs⟩
    rwa [(Text.eq_replaceNulls_iff hnull hreplacement).1 hs]
  · intro h
    exact ⟨s, h, (Text.eq_replaceNulls_iff hnull hreplacement).2 rfl⟩

theorem Text.prefix_replaceNulls_iff (hnull : 0 ∉ s) (hreplacement : .replacement ∉ s) :
    s <+: t.replaceNulls ↔ s <+: t :=
  Text.related_replaceNulls_iff (R := List.IsPrefix) List.prefix_map_iff hnull hreplacement

theorem Text.infix_replaceNulls_iff (hnull : 0 ∉ s) (hreplacement : .replacement ∉ s) :
    s <:+: t.replaceNulls ↔ s <:+: t :=
  Text.related_replaceNulls_iff (R := List.IsInfix) List.infix_map_iff hnull hreplacement

/-- A run of code points of a class with neither nulls nor U+FFFD in it stays as it is. -/
theorem Text.takeWhile_replaceNulls {p : CodePoint → Bool} (hnull : p 0 = false)
    (hreplacement : p .replacement = false) (t : Text) :
    t.replaceNulls.takeWhile p = t.takeWhile p ∧
      t.replaceNulls.dropWhile p = Text.replaceNulls (t.dropWhile p) := by
  have hp : p ∘ CodePoint.replaceNull = p :=
    funext (CodePoint.apply_replaceNull (hreplacement.trans hnull.symm))
  have htake : t.replaceNulls.takeWhile p = Text.replaceNulls (t.takeWhile p) := by
    refine List.takeWhile_map.trans ?_
    exact congrArg (fun q => Text.replaceNulls (t.takeWhile q)) hp
  have hdrop : t.replaceNulls.dropWhile p = Text.replaceNulls (t.dropWhile p) := by
    refine List.dropWhile_map.trans ?_
    exact congrArg (fun q => Text.replaceNulls (t.dropWhile q)) hp
  have hrun : 0 ∉ t.takeWhile p := by
    intro h
    have hzero := List.all_eq_true.1 List.all_takeWhile 0 h
    rw [hnull] at hzero
    cases hzero
  rw [htake, hdrop, Text.replaceNulls_of_notMem hrun]
  exact ⟨rfl, rfl⟩

end CodePoints

namespace Reference

variable {b : Bool}

/-! ## References -/

section References

theorem readRadix_replaceNulls (t : Text) :
    readRadix t.replaceNulls = ((readRadix t).1, (readRadix t).2.replaceNulls) := by
  cases t with
  | nil => rfl
  | cons c t =>
    have hmark : (c.replaceNull = 'x' || c.replaceNull = 'X' : Bool) = (c = 'x' || c = 'X') :=
      CodePoint.apply_replaceNull (p := fun c => (c = 'x' || c = 'X' : Bool)) (by decide) c
    rw [Text.replaceNulls_cons, readRadix, readRadix, hmark]
    split <;> rfl

theorem dropSemicolon_replaceNulls (t : Text) :
    dropSemicolon t.replaceNulls = (dropSemicolon t).replaceNulls := by
  cases t with
  | nil => rfl
  | cons c t =>
    have hsemicolon : (c.replaceNull = ';') = (c = CodePoint.ofChar ';') :=
      CodePoint.apply_replaceNull (p := fun c => c = CodePoint.ofChar ';') (by decide) c
    rw [Text.replaceNulls_cons, dropSemicolon, dropSemicolon]
    simp only [hsemicolon]
    split <;> rfl

theorem continuesWord_replaceNulls (t : Text) : continuesWord t.replaceNulls = continuesWord t := by
  cases t with
  | nil => rfl
  | cons c t =>
    exact CodePoint.apply_replaceNull (p := fun c => (c = '=' || c.isAlphanumeric : Bool))
      (by decide) c

theorem numeric?_replaceNulls (t : Text) :
    numeric? t.replaceNulls = (numeric? t).map (onRest Text.replaceNulls) := by
  have hreplaced := readRadix_replaceNulls t
  rcases hradix : readRadix t with ⟨radix, body⟩
  rw [hradix] at hreplaced
  have hnull : radix.isDigit 0 = false := by cases radix <;> decide
  have hreplacement : radix.isDigit .replacement = false := by cases radix <;> decide
  obtain ⟨htake, hdrop⟩ := Text.takeWhile_replaceNulls hnull hreplacement body
  refine numeric?_onRest hradix hreplaced htake ?_
  rw [hdrop, dropSemicolon_replaceNulls]

/-- Neither nulls nor U+FFFD are in a name. -/
theorem longestNamed?_replaceNulls (t : Text) :
    longestNamed? t.replaceNulls = onRest Text.replaceNulls (longestNamed? t) := by
  have hnull : ∀ r ∈ table, 0 ∉ r.name := fun r hr => notMem_name hr (by decide) (by decide)
  have hreplacement : ∀ r ∈ table, .replacement ∉ r.name :=
    fun r hr => notMem_name hr (by decide) (by decide)
  refine longestNamed?_onRest (fun r hr => ?_) ?_
  · exact Text.prefix_replaceNulls_iff (hnull r hr) (hreplacement r hr)
  · rintro r hr after rfl
    rw [Text.replaceNulls_append, Text.replaceNulls_of_notMem (hnull r hr)]

/-- The same references are found once nulls are replaced. -/
theorem recognise_replaceNulls (t : Text) :
    recognise b t.replaceNulls = (recognise b t).map (onRest Text.replaceNulls) := by
  cases t with
  | nil => rfl
  | cons c t =>
    have hsign : (c.replaceNull = '#') = (c = CodePoint.ofChar '#') :=
      CodePoint.apply_replaceNull (p := fun c => c = CodePoint.ofChar '#') (by decide) c
    refine recognise_cons_onRest (iff_of_eq hsign) (fun _ => numeric?_replaceNulls t)
      (longestNamed?_replaceNulls (c :: t)) fun r after _ => ?_
    rw [continuesWord_replaceNulls]

end References

/-! ## Texts -/

section Texts

/-- Nulls may be replaced before references are decoded or after it. -/
theorem decode_replaceNulls (t : Text) :
    decode b t.replaceNulls = (decode b t).map Text.replaceNulls := by
  have hampersand : ∀ rest : Text, Text.replaceNulls (CodePoint.ofChar '&' :: rest) =
      CodePoint.ofChar '&' :: rest.replaceNulls := fun _ => rfl
  -- along the scan of the text as it is
  induction t using decode.induct b with
  | case1 =>
    rw [decode_nil]
    exact decode_nil
  | case2 rest e hrecognise =>
    have hfails : recognise b (Text.replaceNulls rest) = .error e := by
      rw [recognise_replaceNulls, hrecognise]
      rfl
    rw [hampersand, decode_of_recognise_error hfails, decode_of_recognise_error hrecognise]
    rfl
  | case3 rest hrecognise ih =>
    have hnone : recognise b (Text.replaceNulls rest) = .ok none := by
      rw [recognise_replaceNulls, hrecognise]
      rfl
    rw [hampersand, decode_of_recognise_none hnone, decode_of_recognise_none hrecognise, ih]
    cases decode b rest <;> rfl
  | case4 rest found after hrecognise ih =>
    have hfound : recognise b (Text.replaceNulls rest) = .ok (some (found, after.replaceNulls)) := by
      rw [recognise_replaceNulls, hrecognise]
      rfl
    have hkept : found.replaceNulls = found :=
      Text.replaceNulls_of_notMem (zero_notMem_of_recognise hrecognise)
    rw [hampersand, decode_of_recognise_some hfound, decode_of_recognise_some hrecognise, ih]
    cases decode b after with
    | error e => rfl
    | ok u =>
      have hwhole : (found ++ u).replaceNulls = found ++ u.replaceNulls := by
        rw [Text.replaceNulls_append, hkept]
      exact congrArg Except.ok hwhole.symm
  | case5 c rest hc ih =>
    have hc' : c.replaceNull ≠ CodePoint.ofChar '&' := by
      have hsame : (c.replaceNull = '&') = (c = CodePoint.ofChar '&') :=
        CodePoint.apply_replaceNull (p := fun c => c = CodePoint.ofChar '&') (by decide) c
      rwa [Ne, hsame]
    rw [Text.replaceNulls_cons, decode_cons_of_ne hc', decode_cons_of_ne hc, ih]
    cases decode b rest <;> rfl

end Texts

end Reference

/-! ## Raw text -/

section RawText

/-- **The order in which nulls are replaced and references decoded is immaterial**, in every text and in
both modes, and so it is where raw text and attribute values are decoded. -/
theorem decode_commutes_with_replaceNulls (t : Text) :
    (∀ inAttribute, (Reference.decode inAttribute t).map Text.replaceNulls =
      Reference.decode inAttribute t.replaceNulls) ∧
    (∀ state : TokenizerState, decodeText state t =
      (if state.allowsReferences then Reference.decode false t else .ok t).map fun s =>
        if state.replacesNulls then s.replaceNulls else s) ∧
    decodeAttributeValue t = (Reference.decode true t).map Text.replaceNulls := by
  refine ⟨fun _ => (Reference.decode_replaceNulls t).symm, fun state => ?_,
    Reference.decode_replaceNulls t⟩
  unfold decodeText
  cases state.replacesNulls with
  | false =>
    cases state.allowsReferences with
    | false => rfl
    | true =>
      show Reference.decode false t = (Reference.decode false t).map id
      cases Reference.decode false t <;> rfl
  | true =>
    cases state.allowsReferences with
    | false => rfl
    | true => exact Reference.decode_replaceNulls t

end RawText

end TokenConformance
