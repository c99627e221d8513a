import TokenConformance.Text.CodePoint

/-!
# Pieces of texts — searching, cutting and joining

A text occurs in another where the other holds it in one piece (`occursIn_iff`).  A cut at the first
separator gives what stands before and behind it (`splitAtFirst?_eq_some_iff`), and cuts at all
separators undo the joining of pieces without any (`splitOn_join`, `join_splitOn`).
-/

namespace TokenConformance.Text

variable {sep : CodePoint}

theorem occursIn_iff {needle : Text} : ∀ {t : Text}, needle.occursIn t = true ↔ needle <:+: t
  | [] => by rw [occursIn, List.isEmpty_iff, List.infix_nil]
  | c :: t => by
    rw [occursIn, Bool.or_eq_true, List.isPrefixOf_iff_prefix, occursIn_iff, List.infix_cons_iff]

theorem splitAtFirst?_eq_some_iff : ∀ {t before after : Text},
    splitAtFirst? sep t = some (before, after) ↔ t = before ++ sep :: after ∧ sep ∉ before
  | [], before, after => by
    rw [splitAtFirst?]
    simp
  | c :: t, before, after => by
    rw [splitAtFirst?]
    by_cases hc : c = sep
    · rw [if_pos hc]
      constructor
      · rintro ⟨⟩
        exact ⟨by rw [hc]; rfl, List.not_mem_nil⟩
      · rintro ⟨ht, hsep⟩
        cases before with
        | nil =>
          cases ht
          rfl
        | cons b before =>
          cases ht
          exact absurd (hc ▸ List.mem_cons_self) hsep
    · rw [if_neg hc, Option.map_eq_some_iff]
      constructor
      · rintro ⟨⟨rest, after'⟩, hrest, heq⟩
        cases heq
        obtain ⟨rfl, hsep⟩ := splitAtFirst?_eq_some_iff.1 hrest
        refine ⟨rfl, ?_⟩
        rw [List.mem_cons, not_or]
        exact ⟨Ne.symm hc, hsep⟩
      · rintro ⟨ht, hsep⟩
        cases before with
        | nil =>
          cases ht
          exact absurd rfl hc
        | cons b before =>
          cases ht
          rw [List.mem_cons, not_or] at hsep
          exact ⟨(before, after), splitAtFirst?_eq_some_iff.2 ⟨rfl, hsep.2⟩, rfl⟩

/-! ### Joining -/

theorem join_cons_of_ne_nil {t : Text} {ts : List Text} (h : ts ≠ []) :
    join [sep] (t :: ts) = t ++ sep :: join [sep] ts := by
  obtain ⟨u, ts, rfl⟩ := List.exists_cons_of_ne_nil h
  rw [join, List.append_assoc]
  · rfl
  · exact h

/-- Pieces are joined in two parts with a separator between them. -/
theorem join_append {pieces pieces' : List Text} (h : pieces ≠ []) (h' : pieces' ≠ []) :
    join [sep] (pieces ++ pieces') = join [sep] pieces ++ sep :: join [sep] pieces' := by
  induction pieces with
  | nil => exact absurd rfl h
  | cons piece pieces ih =>
    by_cases hnil : pieces = []
    · rw [hnil, List.singleton_append, join_cons_of_ne_nil h', join]
    · rw [List.cons_append, join_cons_of_ne_nil (List.append_ne_nil_of_left_ne_nil hnil _), ih hnil,
        join_cons_of_ne_nil hnil, List.append_assoc, List.cons_append]

theorem splitOn_ne_nil (sep : CodePoint) : ∀ t : Text, splitOn sep t ≠ []
  | [] => List.cons_ne_nil _ _
  | c :: t => by
    rw [splitOn]
    split
    · exact List.cons_ne_nil _ _
    · split <;> exact List.cons_ne_nil _ _

theorem splitOn_cons_self (t : Text) : splitOn sep (sep :: t) = [] :: splitOn sep t := by
  rw [splitOn]
  obtain ⟨piece, pieces, h⟩ := List.exists_cons_of_ne_nil (splitOn_ne_nil sep t)
  simp [h]

theorem splitOn_cons_of_ne {c : CodePoint} (hc : c ≠ sep) {t piece : Text} {pieces : List Text}
    (h : splitOn sep t = piece :: pieces) : splitOn sep (c :: t) = (c :: piece) :: pieces := by
  rw [splitOn, h]
  simp [hc]

/-- Joining the pieces of a text gives the text. -/
theorem join_splitOn : ∀ t : Text, join [sep] (splitOn sep t) = t
  | [] => rfl
  | c :: t => by
    have ih := join_splitOn t
    obtain ⟨piece, pieces, h⟩ := List.exists_cons_of_ne_nil (splitOn_ne_nil sep t)
    by_cases hc : c = sep
    · rw [hc, splitOn_cons_self, join_cons_of_ne_nil (splitOn_ne_nil sep t), ih]
      rfl
    · rw [splitOn_cons_of_ne hc h]
      rw [h] at ih
      cases pieces with
      | nil => rw [← ih]; rfl
      | cons next pieces =>
        rw [join_cons_of_ne_nil (List.cons_ne_nil _ _)] at ih ⊢
        rw [← ih]
        rfl

theorem notMem_of_mem_splitOn : ∀ {t piece : Text}, piece ∈ splitOn sep t → sep ∉ piece
  | [], piece, h => by
    rw [splitOn, List.mem_singleton] at h
    rw [h]
    exact List.not_mem_nil
  | c :: t, piece, h => by
    obtain ⟨first, pieces, hsplit⟩ := List.exists_cons_of_ne_nil (splitOn_ne_nil sep t)
    by_cases hc : c = sep
    · rw [hc, splitOn_cons_self, List.mem_cons] at h
      obtain rfl | h := h
      · exact List.not_mem_nil
      · exact notMem_of_mem_splitOn h
    · rw [splitOn_cons_of_ne hc hsplit, List.mem_cons] at h
      obtain rfl | h := h
      · rw [List.mem_cons, not_or]
        exact ⟨Ne.symm hc, notMem_of_mem_splitOn (hsplit ▸ List.mem_cons_self)⟩
      · exact notMem_of_mem_splitOn (hsplit ▸ List.mem_cons_of_mem _ h)

theorem splitOn_append_sep : ∀ {t : Text}, sep ∉ t → ∀ u : Text,
    splitOn sep (t ++ sep :: u) = t :: splitOn sep u
  | [], _, u => splitOn_cons_self u
  | c :: t, h, u => by
    rw [List.mem_cons, not_or] at h
    exact splitOn_cons_of_ne (Ne.symm h.1) (splitOn_append_sep h.2 u)

theorem splitOn_of_notMem : ∀ {t : Text}, sep ∉ t → splitOn sep t = [t]
  | [], _ => rfl
  | c :: t, h => by
    rw [List.mem_cons, not_or] at h
    exact splitOn_cons_of_ne (Ne.symm h.1) (splitOn_of_notMem h.2)

/-- The pieces of a join are those that were joined, if no separator stands in them. -/
theorem splitOn_join : ∀ {pieces : List Text}, pieces ≠ [] → (∀ piece ∈ pieces, sep ∉ piece) →
    splitOn sep (join [sep] pieces) = pieces
  | [], h, _ => absurd rfl h
  | [piece], _, h => splitOn_of_notMem (h piece (by simp))
  | piece :: next :: pieces, _, h => by
    have ih := splitOn_join (List.cons_ne_nil next pieces)
      fun p hp => h p (List.mem_cons_of_mem _ hp)
    rw [join_cons_of_ne_nil (List.cons_ne_nil _ _), splitOn_append_sep (h piece (by simp)), ih]

end TokenConformance.Text
