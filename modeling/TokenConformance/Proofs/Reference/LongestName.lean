import Mathlib.Data.Fin.Basic
import Mathlib.Data.List.Chain
import TokenConformance.Proofs.Reference.TrieLookup
import TokenConformance.Reference.Named

/-!
# The longest name — what the table of names is like, and what a look-up in it finds

The table is in strictly ascending order, so no name is in it twice (`nodup_names`), and every name
is a word of ASCII letters and digits, at most with a semicolon behind it (`exists_word`).  A
look-up finds the one entry whose name is the longest at the start of the text
(`longestNamed?_eq_some_iff`), and fails only where there is no such name
(`longestNamed?_eq_none_iff`).
-/

namespace TokenConformance.Reference

/-! ### The table -/

section Table

/-- Whether each text comes before its neighbour. -/
def isAscending : List Text → Bool
  | s :: t :: rest => decide (s < t) && isAscending (t :: rest)
  | _ => true

theorem isChain_of_isAscending : ∀ {l : List Text}, isAscending l → l.IsChain (· < ·)
  | [], _ => .nil
  | [_], _ => .singleton _
  | s :: t :: rest, h => by
    rw [isAscending, Bool.and_eq_true, decide_eq_true_eq] at h
    exact .cons_cons h.1 (isChain_of_isAscending h.2)

theorem isAscending_names : isAscending (table.map Named.name) = true := by decide +kernel

theorem nodup_names : (table.map Named.name).Nodup := by
  have h := (isChain_of_isAscending isAscending_names).pairwise
  refine h.imp ?_
  rintro s _ hlt rfl
  exact List.lt_irrefl s hlt

/-- Entries with the same name are the same. -/
theorem eq_of_name_eq {r s : Named} (hr : r ∈ table) (hs : s ∈ table) (h : r.name = s.name) :
    r = s :=
  List.inj_on_of_nodup_map nodup_names hr hs h

theorem word_ne_nil_and_end : ∀ r ∈ table, r.name.takeWhile CodePoint.isAlphanumeric ≠ [] ∧
    (r.name.dropWhile CodePoint.isAlphanumeric = [] ∨
      r.name.dropWhile CodePoint.isAlphanumeric = [CodePoint.ofChar ';']) := by decide +kernel

/-- **The shape of a name**: a word, at most with a semicolon behind it. -/
theorem exists_word {r : Named} (hr : r ∈ table) :
    ∃ word : Text, word ≠ [] ∧ (∀ c ∈ word, c.isAlphanumeric = true) ∧
      (r.name = word ∨ r.name = word ++ [CodePoint.ofChar ';']) := by
  obtain ⟨hne, hend⟩ := word_ne_nil_and_end r hr
  have hsplit := List.takeWhile_append_dropWhile (p := CodePoint.isAlphanumeric) (l := r.name)
  refine ⟨_, hne, List.all_eq_true.1 List.all_takeWhile, ?_⟩
  rcases hend with h | h <;> rw [h] at hsplit
  · rw [List.append_nil] at hsplit
    exact Or.inl hsplit.symm
  · exact Or.inr hsplit.symm

theorem name_ne_nil {r : Named} (hr : r ∈ table) : r.name ≠ [] := by
  obtain ⟨word, hne, -, h | h⟩ := exists_word hr <;> rw [h]
  · exact hne
  · simp

/-- The first code point of a name is a letter or a digit. -/
theorem isAlphanumeric_of_startsWith {r : Named} (hr : r ∈ table) {c : CodePoint} {t : Text}
    (h : r.name <+: c :: t) : c.isAlphanumeric = true := by
  obtain ⟨word, hne, halnum, hname⟩ := exists_word hr
  obtain ⟨d, word, rfl⟩ := List.exists_cons_of_ne_nil hne
  have hd : d = c := by
    rcases hname with e | e <;> rw [e] at h
    · exact (List.cons_prefix_cons.1 h).1
    · exact (List.cons_prefix_cons.1 h).1
  exact hd ▸ halnum d (by simp)

/-- A code point that is neither a letter nor a digit nor a semicolon is in no name. -/
theorem notMem_name {r : Named} (hr : r ∈ table) {c : CodePoint} (hc : c.isAlphanumeric = false)
    (hs : c ≠ CodePoint.ofChar ';') : c ∉ r.name := by
  obtain ⟨word, -, halnum, hname⟩ := exists_word hr
  have hw : c ∉ word := fun hm => by
    rw [halnum c hm] at hc
    exact Bool.noConfusion hc
  rcases hname with e | e <;> rw [e]
  · exact hw
  · simpa [List.mem_append] using ⟨hw, hs⟩

/-- Nothing but a name itself goes on from its semicolon. -/
theorem name_eq_of_terminated {word name : Text} {r : Named} (hr : r ∈ table)
    (hname : name = word ++ [CodePoint.ofChar ';']) (h : name <+: r.name) : r.name = name := by
  obtain ⟨rest, hrest⟩ := h
  obtain ⟨word', -, halnum, hshape⟩ := exists_word hr
  have hsemi : (CodePoint.ofChar ';').isAlphanumeric = false := by decide
  have hfree : CodePoint.ofChar ';' ∉ word' := fun hm => by
    rw [halnum _ hm] at hsemi
    exact Bool.noConfusion hsemi
  rw [hname, List.append_assoc] at hrest
  rcases hshape with e | e
  · rw [e] at hrest
    exact absurd (hrest ▸ by simp) hfree
  · -- the only semicolon of the longer name is its last code point
    rw [e] at hrest
    have hlen : rest = [] := by
      rcases List.eq_nil_or_concat rest with h | ⟨init, last, h⟩
      · exact h
      · rw [h, ← List.append_assoc, List.concat_eq_append, ← List.append_assoc] at hrest
        have hinit := (List.append_inj' hrest rfl).1
        exact absurd (hinit ▸ by simp) hfree
    rw [e, hname, ← hrest, hlen]
    simp

end Table

/-! ### Look-up -/

section LookUp

theorem get?_byName {w : Text} {r : Named} : byName.get? w = some r ↔ r ∈ table ∧ r.name = w := by
  have hkeys : ((table.map fun r => (r.name, r)).map Prod.fst).Nodup := by
    rw [List.map_map]
    exact nodup_names
  rw [byName, Trie.get?_ofList hkeys]
  · constructor
    · intro h
      obtain ⟨s, hs, e⟩ := List.mem_map.1 h
      obtain ⟨rfl, rfl⟩ := Prod.mk.inj e
      exact ⟨hs, rfl⟩
    · rintro ⟨hr, rfl⟩
      exact List.mem_map.2 ⟨r, hr, rfl⟩
  · intro e he
    obtain ⟨r, hr, rfl⟩ := List.mem_map.1 he
    exact name_ne_nil hr

theorem get?_byName_name {r : Named} (hr : r ∈ table) : byName.get? r.name = some r :=
  get?_byName.2 ⟨hr, rfl⟩

/-- **No name is found** exactly where no name of the table starts the text. -/
theorem longestNamed?_eq_none_iff {t : Text} :
    longestNamed? t = none ↔ ∀ r ∈ table, ¬ r.name <+: t := by
  constructor
  · intro h r hr hp
    have hnone := Trie.longest?_eq_none h r.name hp
    rw [get?_byName_name hr] at hnone
    exact Option.some_ne_none r hnone
  · intro h
    cases hl : longestNamed? t with
    | none => rfl
    | some p =>
      obtain ⟨w, ht, hget, -⟩ := Trie.longest?_eq_some hl
      obtain ⟨hr, rfl⟩ := get?_byName.1 hget
      exact absurd (ht ▸ List.prefix_append _ _) (h _ hr)

/-- **The name that is found** is in the table, starts the text, and is the longest such name. -/
theorem longestNamed?_eq_some_iff {t after : Text} {r : Named} :
    longestNamed? t = some (r, after) ↔ r ∈ table ∧ t = r.name ++ after ∧
      ∀ s ∈ table, s.name <+: t → s.name.length ≤ r.name.length := by
  have hsome : ∀ {r : Named} {after : Text}, longestNamed? t = some (r, after) →
      r ∈ table ∧ t = r.name ++ after ∧
        ∀ s ∈ table, s.name <+: t → s.name.length ≤ r.name.length := by
    intro r after h
    obtain ⟨w, ht, hget, hmax⟩ := Trie.longest?_eq_some h
    obtain ⟨hr, rfl⟩ := get?_byName.1 hget
    refine ⟨hr, ht, fun s hs hp => hmax _ hp ?_⟩
    rw [get?_byName_name hs]
    exact Option.some_ne_none s
  refine ⟨hsome, ?_⟩
  rintro ⟨hr, ht, hmax⟩
  cases hl : longestNamed? t with
  | none => exact absurd (ht ▸ List.prefix_append _ _) (longestNamed?_eq_none_iff.1 hl r hr)
  | some p =>
    obtain ⟨s, after'⟩ := p
    obtain ⟨hs, ht', hmax'⟩ := hsome hl
    -- two longest names at the start of one text are equally long, and so the same
    have hlen : s.name.length = r.name.length :=
      Nat.le_antisymm (hmax s hs (ht' ▸ List.prefix_append _ _))
        (hmax' r hr (ht ▸ List.prefix_append _ _))
    obtain ⟨hname, hafter⟩ := List.append_inj (ht'.symm.trans ht) hlen
    rw [eq_of_name_eq hs hr hname, hafter]

/-- A name with its semicolon is found in whatever text it starts. -/
theorem longestNamed?_of_isTerminated {r : Named} (hr : r ∈ table) (hterm : r.isTerminated = true)
    (t : Text) : longestNamed? (r.name ++ t) = some (r, t) := by
  refine longestNamed?_eq_some_iff.2 ⟨hr, rfl, fun s hs hp => ?_⟩
  rw [Named.isTerminated, decide_eq_true_eq, List.getLast?_eq_some_iff] at hterm
  obtain ⟨word, hname⟩ := hterm
  rcases Nat.le_total s.name.length r.name.length with h | h
  · exact h
  · have hpre := List.prefix_of_prefix_length_le (List.prefix_append r.name t) hp h
    rw [name_eq_of_terminated hs hname hpre]

/-- The reference to the ampersand itself. -/
def ampersand : Named := ⟨Text.ofString "amp;", [CodePoint.ofChar '&']⟩

theorem ampersand_mem : ampersand ∈ table := by decide +kernel

end LookUp

end TokenConformance.Reference
