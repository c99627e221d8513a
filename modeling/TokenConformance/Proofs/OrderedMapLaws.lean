import Mathlib.Data.List.Induction
import Mathlib.Data.List.Nodup
import TokenConformance.OrderedMap

/-!
# Ordered maps — what is found in them, and when two of them are similar

Looking up a key finds exactly the entries (`get?_eq_some_iff`).  Pairs with pairwise different keys
are the entries of the map that they make (`entries_ofList`), and maps with the same entries are
similar in whatever order the entries stand (`similar_of_perm`).  Of pairs with the same key the first
one gives its place to the key (`keys_ofList`), and the last one its value
(`get?_ofList_eq_some_iff`).
-/

namespace TokenConformance.OrderedMap

section Entries

variable {κ ν : Type}

theorem eq_of_entries_eq {m n : OrderedMap κ ν} (h : m.entries = n.entries) : m = n := by
  obtain ⟨entries, nodup⟩ := m
  obtain ⟨entries', nodup'⟩ := n
  cases h
  rfl

variable [DecidableEq κ]

theorem insertEntry_of_notMem (key : κ) (value : ν) : ∀ {l : List (κ × ν)},
    key ∉ l.map Prod.fst → insertEntry key value l = l ++ [(key, value)]
  | [], _ => rfl
  | (k, v) :: rest, h => by
    rw [List.map_cons, List.mem_cons, not_or] at h
    rw [insertEntry, if_neg (Ne.symm h.1), insertEntry_of_notMem key value h.2]
    rfl

/-- Pairs whose keys are new go behind the entries as they are. -/
theorem entries_foldl_insert : ∀ {pairs : List (κ × ν)} {m : OrderedMap κ ν},
    ((m.entries ++ pairs).map Prod.fst).Nodup →
      (pairs.foldl (fun m p => m.insert p.1 p.2) m).entries = m.entries ++ pairs
  | [], m, _ => (List.append_nil _).symm
  | (key, value) :: pairs, m, h => by
    have hnew : key ∉ m.entries.map Prod.fst := by
      rw [List.map_append, List.nodup_append] at h
      exact fun hm => h.2.2 key hm key (by simp) rfl
    have hinsert : (m.insert key value).entries = m.entries ++ [(key, value)] :=
      insertEntry_of_notMem key value hnew
    have hnodup : (((m.insert key value).entries ++ pairs).map Prod.fst).Nodup := by
      rw [hinsert, List.append_assoc]
      exact h
    rw [List.foldl_cons, entries_foldl_insert hnodup, hinsert, List.append_assoc]
    rfl

theorem entries_ofList {pairs : List (κ × ν)} (h : (pairs.map Prod.fst).Nodup) :
    (ofList pairs).entries = pairs :=
  entries_foldl_insert (m := ∅) h

theorem get?_eq_some_iff {m : OrderedMap κ ν} {key : κ} {value : ν} :
    m.get? key = some value ↔ (key, value) ∈ m.entries := by
  unfold get?
  constructor
  · intro h
    obtain ⟨⟨k, v⟩, hfind, rfl⟩ := Option.map_eq_some_iff.1 h
    have hk : k = key := by simpa using List.find?_some hfind
    exact hk ▸ List.mem_of_find?_eq_some hfind
  · intro h
    cases hfind : m.entries.find? fun p => decide (p.1 = key) with
    | none => exact absurd (List.find?_eq_none.1 hfind _ h) (by simp)
    | some p =>
      obtain ⟨k, v⟩ := p
      have hk : k = key := by simpa using List.find?_some hfind
      -- two entries with one key are the same entry
      have hp := List.inj_on_of_nodup_map m.nodup (List.mem_of_find?_eq_some hfind) h hk
      rw [hp]
      rfl

/-- The entries are the keys with what is found at them. -/
theorem entries_eq_filterMap (m : OrderedMap κ ν) :
    m.entries = m.keys.filterMap fun key => (m.get? key).map fun value => (key, value) := by
  have hfound : ∀ p ∈ m.entries, ((m.get? p.1).map fun value => (p.1, value)) = some p := by
    intro p hp
    rw [get?_eq_some_iff.2 hp]
    rfl
  rw [keys, List.filterMap_map]
  refine Eq.trans ?_ (List.filterMap_congr hfound).symm
  rw [List.filterMap_some]

/-- Maps with the same keys in order, and the same values at them, are the same. -/
theorem eq_of_keys_eq {m n : OrderedMap κ ν} (hkeys : m.keys = n.keys)
    (hget : ∀ key, m.get? key = n.get? key) : m = n := by
  refine eq_of_entries_eq ?_
  rw [entries_eq_filterMap m, entries_eq_filterMap n, hkeys]
  simp only [hget]

theorem similar_of_perm [DecidableEq ν] {m n : OrderedMap κ ν} (h : m.entries.Perm n.entries) :
    m.similar n = true := by
  unfold similar size
  rw [Bool.and_eq_true, beq_iff_eq, List.all_eq_true]
  refine ⟨h.length_eq, fun p hp => ?_⟩
  rw [beq_iff_eq]
  exact get?_eq_some_iff.2 (h.subset hp)

end Entries

section Pairs

variable {κ ν : Type} [DecidableEq κ] {m : OrderedMap κ ν} {key k : κ} {value v : ν}

theorem keys_insert : (m.insert k v).keys = if k ∈ m.keys then m.keys else m.keys ++ [k] :=
  keys_insertEntry k v m.entries

/-- Only the value at the key that is inserted changes. -/
theorem get?_insert : (m.insert k v).get? key = if key = k then some v else m.get? key := by
  have hfind : ∀ l : List (κ × ν), ((insertEntry k v l).find? fun p => decide (p.1 = key)).map Prod.snd =
      if key = k then some v else (l.find? fun p => decide (p.1 = key)).map Prod.snd := by
    intro l
    induction l with
    | nil =>
      by_cases hkey : key = k
      · simp [insertEntry, hkey]
      · simp [insertEntry, hkey, Ne.symm hkey]
    | cons p l ih =>
      obtain ⟨k', v'⟩ := p
      by_cases hk : k' = k
      · subst hk
        by_cases hkey : key = k'
        · simp [insertEntry, hkey]
        · simp [insertEntry, hkey, Ne.symm hkey]
      · rw [insertEntry, if_neg hk]
        by_cases hkey : k' = key
        · subst hkey
          simp [hk]
        · simp only [List.find?_cons, hkey, decide_false]
          exact ih
  exact hfind m.entries

theorem ofList_concat (pairs : List (κ × ν)) (p : κ × ν) :
    ofList (pairs ++ [p]) = (ofList pairs).insert p.1 p.2 := by
  rw [ofList, List.foldl_append]
  rfl

/-- The keys stand in the order of their first pairs. -/
theorem keys_ofList [BEq κ] [LawfulBEq κ] (pairs : List (κ × ν)) :
    (ofList pairs).keys = (pairs.map Prod.fst).eraseDups := by
  induction pairs using List.reverseRecOn with
  | nil => rfl
  | append_singleton pairs p ih =>
    rw [ofList_concat, keys_insert, ih, List.map_append, List.eraseDups_append]
    by_cases hp : p.1 ∈ pairs.map Prod.fst
    · have hold : p.1 ∈ (pairs.map Prod.fst).eraseDups := List.mem_eraseDups.2 hp
      have hnone : List.removeAll [p.1] (pairs.map Prod.fst) = [] := by
        simpa [List.removeAll] using hp
      rw [if_pos hold, List.map_singleton, hnone]
      simp
    · have hnew : p.1 ∉ (pairs.map Prod.fst).eraseDups := fun h => hp (List.mem_eraseDups.1 h)
      have hone : List.removeAll [p.1] (pairs.map Prod.fst) = [p.1] := by
        simpa [List.removeAll] using hp
      rw [if_neg hnew, List.map_singleton, hone]
      rfl

/-- An item of a list with one more at its end is the new one or an item of the list. -/
theorem concat_eq_append_cons_iff {α : Type} {l before after : List α} {a b : α} :
    l ++ [a] = before ++ b :: after ↔
      (before = l ∧ b = a ∧ after = []) ∨ ∃ init, after = init ++ [a] ∧ l = before ++ b :: init := by
  rcases List.eq_nil_or_concat after with rfl | ⟨init, last, rfl⟩
  · constructor
    · intro h
      obtain ⟨hl, hlast⟩ := List.append_inj' h rfl
      exact .inl ⟨hl.symm, by simpa using hlast.symm, rfl⟩
    · rintro (⟨rfl, rfl, -⟩ | ⟨init, h, -⟩)
      · rfl
      · simp at h
  · constructor
    · intro h
      rw [List.concat_eq_append, ← List.cons_append, ← List.append_assoc] at h
      obtain ⟨hl, hlast⟩ := List.append_inj' h rfl
      refine .inr ⟨init, ?_, hl⟩
      rw [List.concat_eq_append, ← hlast]
    · rintro (⟨-, -, h⟩ | ⟨init', h, rfl⟩)
      · simp at h
      · rw [h]
        simp

/-- The value at a key is that of the last pair with the key. -/
theorem get?_ofList_eq_some_iff {pairs : List (κ × ν)} :
    (ofList pairs).get? key = some value ↔
      ∃ before after, pairs = before ++ (key, value) :: after ∧ key ∉ after.map Prod.fst := by
  induction pairs using List.reverseRecOn with
  | nil =>
    refine ⟨nofun, ?_⟩
    rintro ⟨before, after, h, -⟩
    simp at h
  | append_singleton pairs p ih =>
    rw [ofList_concat, get?_insert]
    by_cases hkey : key = p.1
    · rw [if_pos hkey, Option.some.injEq]
      constructor
      · rintro rfl
        exact ⟨pairs, [], by rw [hkey], by simp⟩
      · rintro ⟨before, after, h, hafter⟩
        rcases concat_eq_append_cons_iff.1 h with ⟨-, hp, -⟩ | ⟨init, rfl, -⟩
        · rw [← hp]
        · -- the new pair has the key, so an earlier one does not count
          simp [hkey] at hafter
    · rw [if_neg hkey, ih]
      constructor
      · rintro ⟨before, after, rfl, hafter⟩
        exact ⟨before, after ++ [p], by simp, by simpa [hkey] using hafter⟩
      · rintro ⟨before, after, h, hafter⟩
        rcases concat_eq_append_cons_iff.1 h with ⟨-, hp, -⟩ | ⟨init, rfl, rfl⟩
        · exact absurd (congrArg Prod.fst hp) hkey
        · exact ⟨before, init, rfl, fun hm => hafter (by simp [hm])⟩

theorem mem_of_mem_entries_ofList {pairs : List (κ × ν)} {p : κ × ν}
    (h : p ∈ (ofList pairs).entries) : p ∈ pairs := by
  obtain ⟨before, after, hpairs, -⟩ := get?_ofList_eq_some_iff.1 (get?_eq_some_iff.2 h)
  rw [hpairs]
  exact List.mem_append_right _ List.mem_cons_self

end Pairs

end TokenConformance.OrderedMap
