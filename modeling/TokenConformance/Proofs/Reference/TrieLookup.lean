import Mathlib.Data.List.Induction
import Mathlib.Data.List.Nodup
import TokenConformance.Reference.Trie

/-!
# Trie look-up — a trie against the list of words that it was built from

`get?` finds what was stored last under a word (`get?_insert`), so a trie built from pairwise
different words finds exactly those (`get?_ofList`).  `longest?` follows one path down the trie and
ends at the longest stored word on it (`longest?_eq_some`, `longest?_eq_none`).
-/

namespace TokenConformance.Trie

variable {κ α : Type} [DecidableEq κ]

/-! ### Storing -/

@[simp] theorem get?_nil (trie : Trie κ α) : trie.get? [] = none := by
  cases trie <;> rfl

/-- Behind the first letter a look-up goes on in the branch of that letter. -/
theorem get?_branch_self (k : κ) (value : Option α) (children siblings : Trie κ α) (w : List κ) :
    (branch k value children siblings).get? (k :: w) =
      if w = [] then value else children.get? w := by
  cases w <;> simp [get?]

theorem get?_branch_of_ne {letter k : κ} (h : letter ≠ k) (value : Option α)
    (children siblings : Trie κ α) (w : List κ) :
    (branch letter value children siblings).get? (k :: w) = siblings.get? (k :: w) := by
  cases w <;> simp [get?, h]

theorem get?_single (k : κ) (word : List κ) (v : α) (l : List κ) :
    (single k word v).get? l = if l = k :: word then some v else none := by
  induction word generalizing k l with
  | nil =>
    cases l with
    | nil => simp
    | cons c w =>
      rw [single]
      by_cases hc : k = c
      · subst hc
        rw [get?_branch_self]
        cases w <;> simp [get?]
      · rw [get?_branch_of_ne hc, if_neg (by simp [Ne.symm hc])]
        rfl
  | cons k' word ih =>
    cases l with
    | nil => simp
    | cons c w =>
      rw [single]
      by_cases hc : k = c
      · subst hc
        rw [get?_branch_self, ih]
        by_cases hw : w = []
        · subst hw; simp
        · rw [if_neg hw]; simp
      · rw [get?_branch_of_ne hc, if_neg (by simp [Ne.symm hc])]
        rfl

/-- Storing changes the look-up of the stored word and of no other. -/
theorem get?_insert (trie : Trie κ α) (k : κ) (word : List κ) (v : α) (l : List κ) :
    (trie.insert k word v).get? l = if l = k :: word then some v else trie.get? l := by
  induction trie generalizing k word l with
  | leaf => rw [insert, get?_single]; rfl
  | branch letter value children siblings ihc ihs =>
    cases l with
    | nil => simp
    | cons c w =>
      by_cases hk : letter = k
      · subst hk
        by_cases hc : letter = c
        · subst hc
          cases word with
          | nil =>
            rw [insert, if_pos rfl, get?_branch_self, get?_branch_self]
            by_cases hw : w = [] <;> simp [hw]
          | cons k' word =>
            rw [insert, if_pos rfl, get?_branch_self, get?_branch_self, ihc]
            by_cases hw : w = []
            · subst hw; simp
            · rw [if_neg hw, if_neg hw]; simp
        · rw [if_neg (by simp [Ne.symm hc]), get?_branch_of_ne hc]
          cases word <;> rw [insert, if_pos rfl, get?_branch_of_ne hc]
      · unfold insert
        rw [if_neg hk]
        by_cases hc : letter = c
        · subst hc
          rw [if_neg (by simp [hk]), get?_branch_self, get?_branch_self]
        · rw [get?_branch_of_ne hc, get?_branch_of_ne hc, ihs]

theorem ofList_concat_cons (entries : List (List κ × α)) (k : κ) (word : List κ) (v : α) :
    ofList (entries ++ [(k :: word, v)]) = (ofList entries).insert k word v := by
  simp [ofList, List.foldl_append]

/-- A trie built from pairwise different, non-empty words holds those and no others. -/
theorem get?_ofList {entries : List (List κ × α)} (hd : (entries.map Prod.fst).Nodup)
    (hne : ∀ e ∈ entries, e.1 ≠ []) {w : List κ} {v : α} :
    (ofList entries).get? w = some v ↔ (w, v) ∈ entries := by
  induction entries using List.reverseRecOn with
  | nil => simp [ofList, get?]
  | append_singleton entries e ih =>
    obtain ⟨word, v'⟩ := e
    obtain ⟨k, word, rfl⟩ := List.exists_cons_of_ne_nil (hne (word, v') (by simp))
    rw [List.map_append, List.nodup_append] at hd
    obtain ⟨hd, -, hnew⟩ := hd
    have ih := ih hd fun e he => hne e (List.mem_append_left _ he)
    rw [ofList_concat_cons, get?_insert, List.mem_append]
    by_cases hw : w = k :: word
    · -- the word is new, so no earlier entry is under it
      have hold : (w, v) ∉ entries := fun hm =>
        hnew w (List.mem_map.2 ⟨_, hm, rfl⟩) (k :: word) (by simp) hw
      rw [if_pos hw, List.mem_singleton, Prod.mk.injEq, Option.some.injEq]
      exact ⟨fun h => Or.inr ⟨hw, h.symm⟩, fun h => h.elim (absurd · hold) (·.2.symm)⟩
    · rw [if_neg hw, ih, List.mem_singleton, Prod.mk.injEq]
      exact ⟨Or.inl, fun h => h.elim id fun h => absurd h.1 hw⟩

/-! ### The longest word -/

/-- Where no word is found, none of the list's beginnings is stored. -/
theorem longest?_eq_none {trie : Trie κ α} {l : List κ} (h : trie.longest? l = none) :
    ∀ w, w <+: l → trie.get? w = none := by
  induction trie generalizing l with
  | leaf => intro w _; cases w <;> rfl
  | branch letter value children siblings ihc ihs =>
    intro w hw
    cases w with
    | nil => simp
    | cons c w =>
      obtain ⟨tail, rfl⟩ := hw
      rw [List.cons_append, longest?] at h
      by_cases hc : letter = c
      · subst hc
        rw [if_pos rfl, Option.or_eq_none_iff, Option.map_eq_none_iff] at h
        rw [get?_branch_self, h.2, ihc h.1 w (List.prefix_append w tail)]
        simp
      · rw [if_neg hc] at h
        rw [get?_branch_of_ne hc]
        exact ihs h (c :: w) (List.prefix_append (c :: w) tail)

/-- A bound on the stored beginnings of a list among the children bounds those at the branch. -/
theorem length_le_of_branch {k : κ} {value : Option α} {children siblings : Trie κ α}
    {tail w : List κ} {n : ℕ}
    (h : ∀ w, w <+: tail → children.get? w ≠ none → w.length ≤ n) (hw : w <+: k :: tail)
    (hstored : (branch k value children siblings).get? w ≠ none) : w.length ≤ n + 1 := by
  cases w with
  | nil => simp
  | cons c w =>
    obtain ⟨hc, htail⟩ := List.cons_prefix_cons.1 hw
    subst hc
    rw [get?_branch_self] at hstored
    by_cases he : w = []
    · subst he; simp
    · rw [if_neg he] at hstored
      exact Nat.succ_le_succ (h w htail hstored)

/-- What is found is a stored word at the start of the list, and no stored word there is longer. -/
theorem longest?_eq_some {trie : Trie κ α} {l rest : List κ} {v : α}
    (h : trie.longest? l = some (v, rest)) :
    ∃ w, l = w ++ rest ∧ trie.get? w = some v ∧
      ∀ w', w' <+: l → trie.get? w' ≠ none → w'.length ≤ w.length := by
  induction trie generalizing l rest with
  | leaf => simp [longest?] at h
  | branch letter value children siblings ihc ihs =>
    cases l with
    | nil => simp [longest?] at h
    | cons c tail =>
      rw [longest?] at h
      by_cases hc : letter = c
      · subst hc
        rw [if_pos rfl] at h
        rcases Option.or_eq_some_iff.1 h with h | ⟨hnone, h⟩
        · -- the path goes on below the letter
          obtain ⟨w, rfl, hget, hmax⟩ := ihc h
          have hw : w ≠ [] := by rintro rfl; simp at hget
          refine ⟨letter :: w, rfl, by rw [get?_branch_self, if_neg hw, hget], ?_⟩
          exact fun w' => length_le_of_branch hmax
        · -- it ends here
          obtain ⟨_, hv, e⟩ := Option.map_eq_some_iff.1 h
          cases e
          refine ⟨[letter], rfl, by rw [get?_branch_self, if_pos rfl, hv], ?_⟩
          exact fun w' => length_le_of_branch (n := 0) fun w hw hs =>
            absurd (longest?_eq_none hnone w hw) hs
      · rw [if_neg hc] at h
        obtain ⟨w, hl, hget, hmax⟩ := ihs h
        have hw : w ≠ [] := by rintro rfl; simp at hget
        obtain ⟨c', w, rfl⟩ := List.exists_cons_of_ne_nil hw
        obtain ⟨rfl, -⟩ := List.cons_eq_cons.1 hl
        refine ⟨c :: w, hl, by rw [get?_branch_of_ne hc, hget], ?_⟩
        intro w' hw' hstored
        cases w' with
        | nil => simp
        | cons c' w' =>
          obtain ⟨rfl, -⟩ := List.cons_prefix_cons.1 hw'
          rw [get?_branch_of_ne hc] at hstored
          exact hmax _ hw' hstored

end TokenConformance.Trie
