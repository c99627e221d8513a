import TokenConformance.Proofs.ExceptLaws
import TokenConformance.Proofs.Reference.DecodeLaws

/-!
# Decoding in parts — where a text may be cut

If every reference of a text is found as before when more text stands behind it, the two parts are
decoded one after the other (`decode_append`).  So it is in front of a code point that no reference
takes up or looks at (`Separates`), such as an ampersand (`decode_append_of_separates`), and behind one
that no reference goes on from (`Closes`): a text may be cut at either (`decode_append_of_mayCut`).
-/

namespace TokenConformance.Reference

/-! ## Definitions -/

section Defs

/-- What is found at the beginning of a text, with more text behind what follows it. -/
def withMore {α : Type} (more : Text) : Option (α × Text) → Option (α × Text) :=
  Option.map fun found => (found.1, found.2 ++ more)

/-- A code point that belongs to no reference, and that no reference in front of it looks at. -/
structure Separates (inAttribute : Bool) (c : CodePoint) : Prop where
  notAlphanumeric : c.isAlphanumeric = false
  ne_numberSign : c ≠ CodePoint.ofChar '#'
  ne_semicolon : c ≠ CodePoint.ofChar ';'
  ne_equals : inAttribute = true → c ≠ CodePoint.ofChar '='

/-- A code point that no reference goes on from: it is not in one, or it is the last of one. -/
structure Closes (c : CodePoint) : Prop where
  notAlphanumeric : c.isAlphanumeric = false
  ne_ampersand : c ≠ CodePoint.ofChar '&'
  ne_numberSign : c ≠ CodePoint.ofChar '#'

/-- A text may be cut into two parts if the first one closes or the second one begins with a
separator.  An empty part does both. -/
def MayCut (inAttribute : Bool) (s t : Text) : Prop :=
  (∀ c ∈ s.getLast?, Closes c) ∨ ∀ c ∈ t.head?, Separates inAttribute c

end Defs

/-! ## Concatenation -/

section Append

variable {b : Bool} {s t : Text}

/-- **The parts of a text are decoded one after the other** if the references of the first part stay
as they are. -/
theorem decode_append (h : ∀ rest, CodePoint.ofChar '&' :: rest <:+ s →
      recognise b (rest ++ t) = (recognise b rest).map (withMore t)) :
    decode b (s ++ t) = decode b s >>= fun u => (decode b t).map (u ++ ·) := by
  -- along the scan of the first part
  induction s using decode.induct b with
  | case1 =>
    rw [decode_nil]
    exact (id_map (decode b t)).symm
  | case2 rest e hrecognise =>
    have hmore := h rest (List.suffix_refl _)
    rw [hrecognise] at hmore
    rw [List.cons_append, decode_of_recognise_error hmore, decode_of_recognise_error hrecognise]
    rfl
  | case3 rest hrecognise ih =>
    have hmore := h rest (List.suffix_refl _)
    rw [hrecognise] at hmore
    have hrest := ih fun r hr => h r (hr.trans (List.suffix_cons _ _))
    rw [List.cons_append, decode_of_recognise_none hmore, decode_of_recognise_none hrecognise, hrest]
    cases decode b rest <;> cases decode b t <;> rfl
  | case4 rest found after hrecognise ih =>
    have hmore := h rest (List.suffix_refl _)
    rw [hrecognise] at hmore
    have hrest := ih fun r hr =>
      h r (hr.trans ((suffix_of_recognise hrecognise).trans (List.suffix_cons _ _)))
    rw [List.cons_append, decode_of_recognise_some hmore, decode_of_recognise_some hrecognise, hrest]
    cases decode b after with
    | error e => rfl
    | ok u => cases decode b t <;> simp [Except.map, bind, Except.bind]
  | case5 c rest hc ih =>
    have hrest := ih fun r hr => h r (hr.trans (List.suffix_cons _ _))
    rw [List.cons_append, decode_cons_of_ne hc, decode_cons_of_ne hc, hrest]
    cases decode b rest <;> cases decode b t <;> rfl

end Append

/-! ## Separators -/

section Separators

variable {b : Bool} {c : CodePoint} {s t : Text}

theorem Radix.isAlphanumeric_of_isDigit {radix : Radix} (h : radix.isDigit c = true) :
    c.isAlphanumeric = true := by
  cases radix with
  | decimal =>
    have hdigit : c.isDigit = true := h
    simp [CodePoint.isAlphanumeric, hdigit]
  | hexadecimal =>
    simp only [CodePoint.isAlphanumeric, CodePoint.isDigit, CodePoint.isUpper, CodePoint.isLower,
      Bool.or_eq_true, Bool.and_eq_true, decide_eq_true_eq]
    by_contra hnone
    have hvalue : c.hexValue? = none := by
      simp only [CodePoint.hexValue?, CodePoint.isDigit, Bool.and_eq_true, decide_eq_true_eq]
      rw [if_neg (by omega), if_neg (by omega), if_neg (by omega)]
    rw [isDigit, CodePoint.isHexDigit, hvalue] at h
    cases h

theorem Radix.isDigit_eq_false (radix : Radix) (hc : c.isAlphanumeric = false) :
    radix.isDigit c = false := by
  rw [← Bool.not_eq_true]
  intro h
  rw [isAlphanumeric_of_isDigit h] at hc
  cases hc

/-- A run of code points ends where another one stands behind it. -/
theorem takeWhile_append_cons {p : CodePoint → Bool} (hc : p c = false) :
    ∀ s : Text, (s ++ c :: t).takeWhile p = s.takeWhile p ∧
      (s ++ c :: t).dropWhile p = s.dropWhile p ++ c :: t
  | [] => by simp [hc]
  | d :: s => by
    obtain ⟨htake, hdrop⟩ := takeWhile_append_cons hc s
    cases hd : p d <;> simp [hd, htake, hdrop]

theorem readRadix_append (hc : c.isAlphanumeric = false) :
    readRadix (s ++ c :: t) = ((readRadix s).1, (readRadix s).2 ++ c :: t) := by
  cases s with
  | nil =>
    have hx : ¬ (c = 'x' || c = 'X') = true := by
      rw [Bool.or_eq_true, decide_eq_true_eq, decide_eq_true_eq]
      rintro (rfl | rfl) <;> exact absurd hc (by decide)
    exact if_neg hx
  | cons d s =>
    rw [List.cons_append, readRadix, readRadix]
    split <;> rfl

theorem dropSemicolon_append (hs : s ≠ []) : dropSemicolon (s ++ t) = dropSemicolon s ++ t := by
  obtain ⟨d, s, rfl⟩ := List.exists_cons_of_ne_nil hs
  rw [List.cons_append, dropSemicolon, dropSemicolon]
  split <;> rfl

/-- A number is found as before when a separator and more text stand behind it. -/
theorem numeric?_append (hc : c.isAlphanumeric = false) (hs : c ≠ CodePoint.ofChar ';') :
    numeric? (s ++ c :: t) = (numeric? s).map (withMore (c :: t)) := by
  rcases hradix : readRadix s with ⟨radix, body⟩
  have hmore : readRadix (s ++ c :: t) = (radix, body ++ c :: t) := by
    rw [readRadix_append hc, hradix]
  obtain ⟨htake, hdrop⟩ := takeWhile_append_cons (t := t) (radix.isDigit_eq_false hc) body
  refine numeric?_onRest (g := (· ++ c :: t)) hradix hmore htake ?_
  rw [hdrop]
  cases body.dropWhile radix.isDigit with
  | nil => exact if_neg hs
  | cons d rest => exact dropSemicolon_append (List.cons_ne_nil d rest)

/-- So it is when more text stands behind a code point that is no digit. -/
theorem numeric?_append_cons (hc : c.isAlphanumeric = false) :
    numeric? (s ++ c :: t) = (numeric? (s ++ [c])).map (withMore t) := by
  rcases hradix : readRadix s with ⟨radix, body⟩
  have hone : readRadix (s ++ [c]) = (radix, body ++ [c]) := by
    rw [readRadix_append hc, hradix]
  have hmore : readRadix (s ++ c :: t) = (radix, body ++ c :: t) := by
    rw [readRadix_append hc, hradix]
  obtain ⟨htake, hdrop⟩ := takeWhile_append_cons (t := []) (radix.isDigit_eq_false hc) body
  obtain ⟨htake', hdrop'⟩ := takeWhile_append_cons (t := t) (radix.isDigit_eq_false hc) body
  refine numeric?_onRest (g := (· ++ t)) hone hmore (htake'.trans htake.symm) ?_
  have hend : body.dropWhile radix.isDigit ++ [c] ≠ [] := by simp
  rw [hdrop, hdrop', ← dropSemicolon_append hend, List.append_assoc]
  rfl

/-- Nothing of a name stands behind a code point that is neither a letter nor a digit. -/
theorem end_of_name {r : Named} (hr : r ∈ table) (hc : c.isAlphanumeric = false)
    (h : r.name = s ++ c :: t) : c = CodePoint.ofChar ';' ∧ t = [] := by
  obtain ⟨word, -, halnum, hname⟩ := exists_word hr
  have hword : c ∉ word := by
    intro hm
    rw [halnum c hm] at hc
    cases hc
  rcases hname with e | e
  · exact absurd (by rw [← e, h]; simp) hword
  · rcases List.eq_nil_or_concat t with rfl | ⟨init, last, rfl⟩
    · rw [e] at h
      have hlast := (List.append_inj' h rfl).2
      exact ⟨(List.cons.inj hlast).1.symm, rfl⟩
    · rw [e, List.concat_eq_append, ← List.cons_append, ← List.append_assoc] at h
      have hinit : word = s ++ c :: init := (List.append_inj' h rfl).1
      exact absurd (by rw [hinit]; simp) hword

/-- A name at the beginning of two texts put together goes into the second one, or stands at the
beginning of the first. -/
theorem name_prefix_append {r : Named} (h : r.name <+: s ++ c :: t) :
    r.name <+: s ∨ ∃ rest, r.name = s ++ c :: rest := by
  obtain ⟨more, h⟩ := h
  rcases List.append_eq_append_iff.1 h with ⟨between, hbetween, -⟩ | ⟨rest, hname, hrest⟩
  · exact Or.inl ⟨between, hbetween.symm⟩
  · cases rest with
    | nil => exact Or.inl ⟨[], by rw [hname, List.append_nil, List.append_nil]⟩
    | cons d rest =>
      obtain ⟨rfl, -⟩ := List.cons.inj hrest
      exact Or.inr ⟨rest, hname⟩

/-- The names at the beginning of a text end in front of a separator. -/
theorem name_prefix_append_iff {r : Named} (hr : r ∈ table) (hc : c.isAlphanumeric = false)
    (hs : c ≠ CodePoint.ofChar ';') : r.name <+: s ++ c :: t ↔ r.name <+: s := by
  constructor
  · intro h
    rcases name_prefix_append h with h | ⟨rest, hname⟩
    · exact h
    · exact absurd (end_of_name hr hc hname).1 hs
  · intro h
    exact h.trans (List.prefix_append _ _)

/-- They end at the latest with a code point that is neither a letter nor a digit. -/
theorem name_prefix_append_cons_iff {r : Named} (hr : r ∈ table) (hc : c.isAlphanumeric = false) :
    r.name <+: s ++ c :: t ↔ r.name <+: s ++ [c] := by
  constructor
  · intro h
    rcases name_prefix_append h with h | ⟨rest, hname⟩
    · exact h.trans (List.prefix_append _ _)
    · obtain ⟨-, rfl⟩ := end_of_name hr hc hname
      exact ⟨[], by rw [hname, List.append_nil]⟩
  · intro h
    have hmore : s ++ [c] <+: s ++ c :: t := ⟨t, by simp⟩
    exact h.trans hmore

/-- The same name is found where more text adds no name. -/
theorem longestNamed?_append (h : ∀ r ∈ table, r.name <+: s ++ t ↔ r.name <+: s) :
    longestNamed? (s ++ t) = withMore t (longestNamed? s) := by
  have hrest : ∀ r ∈ table, ∀ after, s = r.name ++ after → s ++ t = r.name ++ (after ++ t) := by
    rintro r - after rfl
    exact List.append_assoc _ _ _
  exact longestNamed?_onRest (g := (· ++ t)) h hrest

theorem continuesWord_append (hs : s ≠ []) : continuesWord (s ++ t) = continuesWord s := by
  obtain ⟨d, s, rfl⟩ := List.exists_cons_of_ne_nil hs
  rfl

/-- A reference is found as before when a separator and more text stand behind it. -/
theorem recognise_append_of_separates (hc : Separates b c) (s : Text) :
    recognise b (s ++ c :: t) = (recognise b s).map (withMore (c :: t)) := by
  have hlongest : longestNamed? (s ++ c :: t) = withMore (c :: t) (longestNamed? s) :=
    longestNamed?_append fun r hr => name_prefix_append_iff hr hc.notAlphanumeric hc.ne_semicolon
  cases s with
  | nil =>
    have hnone : longestNamed? [] = none :=
      longestNamed?_eq_none_iff.2 fun r hr hp => name_ne_nil hr (List.prefix_nil.1 hp)
    rw [hnone] at hlongest
    exact recognise_of_unnamed hc.ne_numberSign hlongest
  | cons d s =>
    have hnumber : numeric? (s ++ c :: t) = (numeric? s).map (withMore (c :: t)) :=
      numeric?_append hc.notAlphanumeric hc.ne_semicolon
    refine recognise_cons_onRest (g := (· ++ c :: t)) Iff.rfl (fun _ => hnumber) hlongest
      fun r after _ => ?_
    cases after with
    | cons e after => rfl
    | nil =>
      cases b with
      | false => rfl
      | true => simp [continuesWord, hc.notAlphanumeric, hc.ne_equals rfl]

/-- A reference is found as before when more text stands behind a code point that closes it. -/
theorem recognise_append_of_closes (hc : Closes c) (s : Text) :
    recognise b (s ++ c :: t) = (recognise b (s ++ [c])).map (withMore t) := by
  have hlongest : longestNamed? ((s ++ [c]) ++ t) = withMore t (longestNamed? (s ++ [c])) := by
    refine longestNamed?_append fun r hr => ?_
    rw [List.append_assoc]
    exact name_prefix_append_cons_iff hr hc.notAlphanumeric
  have hword : ∀ r after, longestNamed? (s ++ [c]) = some (r, after) →
      (b && !r.isTerminated && continuesWord (after ++ t)) =
        (b && !r.isTerminated && continuesWord after) := by
    intro r after h
    obtain ⟨hr, hname, -⟩ := longestNamed?_eq_some_iff.1 h
    by_cases hafter : after = []
    · -- the name ends with the closing code point, so it has its semicolon
      rw [hafter, List.append_nil] at hname
      have hterminated : r.isTerminated = true := by
        rw [Named.isTerminated, ← hname, (end_of_name hr hc.notAlphanumeric hname.symm).1]
        simp
      rw [hterminated]
      simp
    · rw [continuesWord_append hafter]
  rw [List.append_assoc] at hlongest
  cases s with
  | nil =>
    exact recognise_cons_onRest (g := (· ++ t)) Iff.rfl (fun h => absurd h hc.ne_numberSign) hlongest
      hword
  | cons d s =>
    have hnumber : numeric? (s ++ c :: t) = (numeric? (s ++ [c])).map (withMore t) :=
      numeric?_append_cons hc.notAlphanumeric
    exact recognise_cons_onRest (g := (· ++ t)) Iff.rfl (fun _ => hnumber) hlongest hword

/-- **A text may be cut in front of a separator.** -/
theorem decode_append_of_separates (hc : Separates b c) (s t : Text) :
    decode b (s ++ c :: t) = decode b s >>= fun u => (decode b (c :: t)).map (u ++ ·) :=
  decode_append fun rest _ => recognise_append_of_separates hc rest

/-- So it may in front of an ampersand. -/
theorem separates_ampersand : Separates b (CodePoint.ofChar '&') :=
  ⟨by decide, by decide, by decide, fun _ => by decide⟩

/-- **A text may be cut behind what closes it and in front of a separator**: the parts are decoded one
after the other, and the whole fails if one of them does. -/
theorem decode_append_of_mayCut (h : MayCut b s t) :
    decode b (s ++ t) = decode b s >>= fun u => (decode b t).map (u ++ ·) := by
  rcases h with hs | ht
  · refine decode_append fun rest hrest => ?_
    obtain ⟨before, rfl⟩ := hrest
    rcases List.eq_nil_or_concat rest with rfl | ⟨init, last, rfl⟩
    · have hlast : Closes (CodePoint.ofChar '&') := hs _ (by simp)
      exact absurd rfl hlast.ne_ampersand
    · have hend : before ++ CodePoint.ofChar '&' :: init.concat last =
          (before ++ CodePoint.ofChar '&' :: init) ++ [last] := by simp
      have hlast : Closes last := hs last (by rw [hend, List.getLast?_concat]; rfl)
      have happend := recognise_append_of_closes (b := b) (t := t) hlast init
      rw [List.concat_eq_append, List.append_assoc]
      exact happend
  · cases t with
    | nil =>
      rw [List.append_nil, decode_nil]
      cases decode b s with
      | error e => rfl
      | ok u => simp [bind, Except.bind, Except.map]
    | cons c t => exact decode_append_of_separates (ht c rfl) s t

/-- What a reference stands for and what follows it are no reference together. -/
theorem decode_append_of_mayCut_ampersand :
    MayCut true (Text.ofString "&amp;") (Text.ofString "lt;") ∧
      decode true (Text.ofString "&amp;" ++ Text.ofString "lt;") = .ok (Text.ofString "&lt;") := by
  have hcut : MayCut true (Text.ofString "&amp;") (Text.ofString "lt;") := by
    refine Or.inl fun c hc => ?_
    cases hc
    exact ⟨by decide, by decide, by decide⟩
  have hfirst : decode true (Text.ofString "&amp;") = .ok [CodePoint.ofChar '&'] := by
    have hampersand := decode_ampersand (b := true) []
    rw [decode_nil] at hampersand
    exact hampersand
  have hsecond : decode true (Text.ofString "lt;") = .ok (Text.ofString "lt;") :=
    decode_of_notMem (by decide)
  refine ⟨hcut, ?_⟩
  rw [decode_append_of_mayCut hcut, hfirst, hsecond]
  rfl

end Separators

end TokenConformance.Reference
