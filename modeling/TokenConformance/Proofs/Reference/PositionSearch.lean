import TokenConformance.Proofs.Reference.LongestName

/-!
# The search by positions — how far behind an ampersand one has to look

The longest name can be found without a trie: run over ASCII letters and digits, no farther than the
longest name of all reaches (`runEnd`), take in a semicolon right behind them (`searchEnd`), and cut
what was run over shorter at its end until it is a name (`longestUpTo?`).  A name that stands behind
the ampersand does not go beyond the end of the search (`add_length_le_searchEnd`), so what is not
looked at does not matter (`prefix_searched_iff`), and the search finds what the trie finds
(`search?_eq_longestNamed?`).
-/

namespace TokenConformance.Reference

/-! ## Definitions -/

section Defs

/-- The number of code points in the longest name of all. -/
def longestLength : ℕ := (table.map fun r => r.name.length).max?.getD 0

/-- The first position from `pos` on that has no ASCII letter or digit, or is the limit. -/
def runEnd (t : Text) (limit pos : ℕ) : ℕ :=
  if pos < limit ∧ t[pos]?.any CodePoint.isAlphanumeric then runEnd t limit (pos + 1) else pos
termination_by limit - pos

/-- The search stays inside of the text, and goes no farther than the longest name of all would. -/
def searchLimit (t : Text) (amp : ℕ) : ℕ := min t.length (amp + 1 + longestLength)

/-- Where the search behind the ampersand at `amp` ends. -/
def searchEnd (t : Text) (amp : ℕ) : ℕ :=
  let last := runEnd t (searchLimit t amp) (amp + 1)
  if last < searchLimit t amp ∧ t[last]? = some (CodePoint.ofChar ';') then last + 1 else last

/-- The part of the text that the search looks at. -/
def searched (t : Text) (amp : ℕ) : Text := t.extract (amp + 1) (searchEnd t amp)

/-- The first name among the pieces from `first` on that end at `stop`, one position before it, and
so on down to the piece of one code point. -/
def longestUpTo? (t : Text) (first : ℕ) : (stop : ℕ) → Option Text
  | 0 => none
  | stop + 1 =>
    if stop < first then none
    else if t.extract first (stop + 1) ∈ table.map Named.name then some (t.extract first (stop + 1))
    else longestUpTo? t first stop

/-- The name behind the ampersand at `amp`, looked for by positions. -/
def search? (t : Text) (amp : ℕ) : Option Text := longestUpTo? t (amp + 1) (searchEnd t amp)

/-- The text starts with the name `w` and with no longer one. -/
structure IsLongestName (w t : Text) : Prop where
  isName : w ∈ table.map Named.name
  starts : w <+: t
  longest : ∀ r ∈ table, r.name <+: t → r.name.length ≤ w.length

/-- ASCII letters and digits, at most with a semicolon behind them. -/
def IsWord (w : Text) : Prop :=
  ∃ run : Text, (∀ c ∈ run, c.isAlphanumeric = true) ∧
    (w = run ∨ w = run ++ [CodePoint.ofChar ';'])

end Defs

/-! ## Pieces of a text -/

section Pieces

variable {w t : Text} {c : CodePoint} {first stop : ℕ}

theorem drop_eq_cons (h : t[first]? = some c) : t.drop first = c :: t.drop (first + 1) := by
  obtain ⟨hlt, rfl⟩ := List.getElem?_eq_some_iff.1 h
  exact List.drop_eq_getElem_cons hlt

theorem prefix_extract_iff :
    w <+: t.extract first stop ↔ w <+: t.drop first ∧ w.length ≤ stop - first := by
  rw [List.extract_eq_take_drop, List.prefix_take_iff]

theorem extract_eq_nil (h : stop ≤ first) : t.extract first stop = [] := by
  rw [List.extract_eq_take_drop, Nat.sub_eq_zero_of_le h, List.take_zero]

theorem extract_eq_cons (h : first < stop) (hc : t[first]? = some c) :
    t.extract first stop = c :: t.extract (first + 1) stop := by
  obtain ⟨n, rfl⟩ := Nat.exists_eq_add_of_lt h
  rw [List.extract_eq_take_drop, List.extract_eq_take_drop, drop_eq_cons hc,
    show first + n + 1 - first = n + 1 by omega, show first + n + 1 - (first + 1) = n by omega,
    List.take_succ_cons]

theorem extract_succ (h : first ≤ stop) (hc : t[stop]? = some c) :
    t.extract first (stop + 1) = t.extract first stop ++ [c] := by
  rw [List.extract_eq_take_drop, List.extract_eq_take_drop, Nat.succ_sub h, List.take_add_one,
    List.getElem?_drop, Nat.add_sub_cancel' h, hc]
  rfl

end Pieces

/-! ## The lengths of names -/

section Lengths

theorem length_table : table.length = 2231 := by decide +kernel

theorem length_name_le : ∀ r ∈ table, r.name.length ≤ 32 := by decide +kernel

theorem exists_length_name : ∃ r ∈ table, r.name.length = 32 := by decide +kernel

theorem longestLength_eq : longestLength = 32 := by
  have hmax : (table.map fun r => r.name.length).max? = some 32 := by
    rw [List.max?_eq_some_iff, List.mem_map]
    refine ⟨exists_length_name, fun n hn => ?_⟩
    obtain ⟨r, hr, rfl⟩ := List.mem_map.1 hn
    exact length_name_le r hr
  unfold longestLength
  rw [hmax]
  rfl

end Lengths

/-! ## The longest name -/

section Longest

variable {w s t : Text} {first stop : ℕ}

/-- What the trie finds is the longest name. -/
theorem name_longestNamed?_eq_some_iff :
    ((longestNamed? t).map fun found => found.1.name) = some w ↔ IsLongestName w t := by
  constructor
  · intro h
    obtain ⟨⟨r, after⟩, hfound, rfl⟩ := Option.map_eq_some_iff.1 h
    obtain ⟨hr, ht, hmax⟩ := longestNamed?_eq_some_iff.1 hfound
    exact ⟨List.mem_map_of_mem hr, ht ▸ List.prefix_append _ _, hmax⟩
  · rintro ⟨hname, ⟨after, ht⟩, hmax⟩
    obtain ⟨r, hr, rfl⟩ := List.mem_map.1 hname
    rw [longestNamed?_eq_some_iff.2 ⟨hr, ht.symm, hmax⟩]
    rfl

theorem IsLongestName.of_starts (h : IsLongestName w s)
    (hst : ∀ r ∈ table, r.name <+: s ↔ r.name <+: t) : IsLongestName w t := by
  obtain ⟨r, hr, rfl⟩ := List.mem_map.1 h.isName
  exact ⟨h.isName, (hst r hr).1 h.starts, fun r' hr' hp => h.longest r' hr' ((hst r' hr').2 hp)⟩

/-- Texts that start with the same names have the same longest one. -/
theorem isLongestName_congr (h : ∀ r ∈ table, r.name <+: s ↔ r.name <+: t) :
    IsLongestName w s ↔ IsLongestName w t :=
  ⟨fun hs => hs.of_starts h, fun ht => ht.of_starts fun r hr => (h r hr).symm⟩

theorem not_isLongestName_nil : ¬ IsLongestName w [] := by
  intro h
  obtain ⟨r, hr, rfl⟩ := List.mem_map.1 h.isName
  exact name_ne_nil hr (List.prefix_nil.1 h.starts)

/-- A piece that is no name starts with the same names as the next shorter piece. -/
theorem prefix_extract_succ_iff {r : Named} (hr : r ∈ table)
    (h : t.extract first (stop + 1) ∉ table.map Named.name) :
    r.name <+: t.extract first stop ↔ r.name <+: t.extract first (stop + 1) := by
  rw [prefix_extract_iff, prefix_extract_iff]
  refine and_congr_right fun hp => ⟨fun hle => by omega, fun hle => ?_⟩
  by_contra hlt
  have hlen : r.name.length = stop + 1 - first := by omega
  have hpiece : r.name = t.extract first (stop + 1) := by
    rw [List.extract_eq_take_drop, ← hlen]
    exact List.prefix_iff_eq_take.1 hp
  exact h (hpiece ▸ List.mem_map_of_mem hr)

/-- **Cutting shorter** ends at the longest name, and at none only if there is none. -/
theorem longestUpTo?_eq_some_iff :
    longestUpTo? t first stop = some w ↔ IsLongestName w (t.extract first stop) := by
  induction stop with
  | zero =>
    rw [longestUpTo?, extract_eq_nil (Nat.zero_le first)]
    exact iff_of_false (Option.some_ne_none w).symm not_isLongestName_nil
  | succ stop ih =>
    by_cases hstop : stop < first
    · rw [longestUpTo?, if_pos hstop, extract_eq_nil hstop]
      exact iff_of_false (Option.some_ne_none w).symm not_isLongestName_nil
    by_cases hname : t.extract first (stop + 1) ∈ table.map Named.name
    · -- the whole piece is a name, and what it starts with is not longer
      rw [longestUpTo?, if_neg hstop, if_pos hname, Option.some.injEq]
      constructor
      · rintro rfl
        exact ⟨hname, List.prefix_refl _, fun r _ hp => hp.length_le⟩
      · intro h
        obtain ⟨r, hr, e⟩ := List.mem_map.1 hname
        have hle := h.longest r hr (e ▸ List.prefix_refl _)
        exact (h.starts.eq_of_length_le (e ▸ hle)).symm
    · rw [longestUpTo?, if_neg hstop, if_neg hname, ih]
      exact isLongestName_congr fun r hr => prefix_extract_succ_iff hr hname

end Longest

/-! ## The run of letters and digits -/

section Run

variable (t : Text) (limit pos : ℕ)

theorem le_runEnd : pos ≤ runEnd t limit pos := by
  fun_induction runEnd t limit pos with
  | case1 pos _ ih => exact Nat.le_of_succ_le ih
  | case2 pos _ => exact Nat.le_refl pos

theorem runEnd_le : runEnd t limit pos ≤ max limit pos := by
  fun_induction runEnd t limit pos with
  | case1 pos hrun ih => omega
  | case2 pos _ => exact Nat.le_max_right limit pos

variable {t limit pos}

/-- The run does not go beyond what is no letter or digit. -/
theorem runEnd_le_of_other {i : ℕ} (hi : pos ≤ i)
    (hother : ¬ t[i]?.any CodePoint.isAlphanumeric = true) : runEnd t limit pos ≤ i := by
  fun_induction runEnd t limit pos with
  | case1 pos hrun ih =>
    have hne : pos ≠ i := fun e => hother (e ▸ hrun.2)
    exact ih (by omega)
  | case2 pos _ => exact hi

/-- The run goes over a whole word that ends below the limit. -/
theorem add_length_le_runEnd {word : Text} (halnum : ∀ c ∈ word, c.isAlphanumeric = true)
    (hp : word <+: t.drop pos) (hlimit : pos + word.length ≤ limit) :
    pos + word.length ≤ runEnd t limit pos := by
  induction word generalizing pos with
  | nil => exact le_runEnd t limit pos
  | cons c word ih =>
    have hget : t[pos]? = some c := by
      obtain ⟨rest, hrest⟩ := hp
      rw [← List.head?_drop, ← hrest]
      rfl
    rw [drop_eq_cons hget, List.cons_prefix_cons] at hp
    rw [List.length_cons] at hlimit ⊢
    have hrun : pos < limit ∧ t[pos]?.any CodePoint.isAlphanumeric = true :=
      ⟨by omega, by rw [hget]; exact halnum c List.mem_cons_self⟩
    have hword := ih (fun d hd => halnum d (List.mem_cons_of_mem c hd)) hp.2 (by omega)
    rw [runEnd, if_pos hrun]
    omega

variable (t limit pos) in
/-- The run goes over nothing but letters and digits. -/
theorem isAlphanumeric_of_mem_run :
    ∀ c ∈ t.extract pos (runEnd t limit pos), c.isAlphanumeric = true := by
  fun_induction runEnd t limit pos with
  | case1 pos hrun ih =>
    obtain ⟨d, hd, halnum⟩ := (Option.any_eq_true _ _).1 hrun.2
    have hle := le_runEnd t limit (pos + 1)
    rw [extract_eq_cons hle hd]
    exact List.forall_mem_cons.2 ⟨halnum, ih⟩
  | case2 pos _ =>
    rw [extract_eq_nil (Nat.le_refl pos)]
    exact List.forall_mem_nil _

end Run

/-! ## The end of the search -/

section SearchEnd

variable {t : Text} {amp : ℕ}

variable (t amp) in
/-- The search ends with the run, or behind a semicolon that follows the run below the limit. -/
theorem searchEnd_cases :
    (runEnd t (searchLimit t amp) (amp + 1) < searchLimit t amp ∧
      t[runEnd t (searchLimit t amp) (amp + 1)]? = some (CodePoint.ofChar ';') ∧
      searchEnd t amp = runEnd t (searchLimit t amp) (amp + 1) + 1) ∨
    searchEnd t amp = runEnd t (searchLimit t amp) (amp + 1) := by
  unfold searchEnd
  dsimp only
  split_ifs with h
  · exact Or.inl ⟨h.1, h.2, rfl⟩
  · exact Or.inr rfl

theorem runEnd_le_searchEnd : runEnd t (searchLimit t amp) (amp + 1) ≤ searchEnd t amp := by
  rcases searchEnd_cases t amp with ⟨-, -, h⟩ | h <;> omega

theorem add_length_le_searchLimit {r : Named} (hr : r ∈ table) (hp : r.name <+: t.drop (amp + 1)) :
    amp + 1 + r.name.length ≤ searchLimit t amp := by
  have hpos := List.length_pos_iff.2 (name_ne_nil hr)
  have hlen := hp.length_le
  have hmax := length_name_le r hr
  rw [List.length_drop] at hlen
  rw [searchLimit, longestLength_eq]
  omega

/-- **No name goes beyond the end of the search.** -/
theorem add_length_le_searchEnd {r : Named} (hr : r ∈ table) (hp : r.name <+: t.drop (amp + 1)) :
    amp + 1 + r.name.length ≤ searchEnd t amp := by
  have hlimit := add_length_le_searchLimit hr hp
  obtain ⟨word, -, halnum, hname⟩ := exists_word hr
  rcases hname with e | e <;> rw [e] at hp hlimit ⊢
  · exact (add_length_le_runEnd halnum hp hlimit).trans runEnd_le_searchEnd
  · -- the run ends right in front of the semicolon, which is still below the limit
    rw [List.length_append, List.length_singleton] at hlimit ⊢
    have hsemi : t[amp + 1 + word.length]? = some (CodePoint.ofChar ';') := by
      obtain ⟨rest, hrest⟩ := hp
      rw [← List.getElem?_drop, ← hrest, List.append_assoc,
        List.getElem?_append_right (Nat.le_refl _), Nat.sub_self]
      rfl
    have hge := add_length_le_runEnd halnum ((List.prefix_append _ _).trans hp)
      (Nat.le_of_succ_le hlimit)
    have hle : runEnd t (searchLimit t amp) (amp + 1) ≤ amp + 1 + word.length :=
      runEnd_le_of_other (Nat.le_add_right _ _) (by rw [hsemi]; decide)
    unfold searchEnd
    dsimp only
    rw [Nat.le_antisymm hle hge, if_pos ⟨hlimit, hsemi⟩]
    exact Nat.le_refl _

/-- What is not looked at does not matter. -/
theorem prefix_searched_iff {r : Named} (hr : r ∈ table) :
    r.name <+: searched t amp ↔ r.name <+: t.drop (amp + 1) := by
  rw [searched, prefix_extract_iff]
  refine and_iff_left_of_imp fun hp => ?_
  have hle := add_length_le_searchEnd hr hp
  omega

theorem length_searched_le : (searched t amp).length ≤ longestLength := by
  have hrun := runEnd_le t (searchLimit t amp) (amp + 1)
  have hlimit : searchLimit t amp ≤ amp + 1 + longestLength := Nat.min_le_right _ _
  rw [searched, List.extract_eq_take_drop]
  refine (List.length_take_le _ _).trans ?_
  rcases searchEnd_cases t amp with ⟨hlt, -, h⟩ | h <;> omega

/-- The search looks at a word. -/
theorem isWord_searched : IsWord (searched t amp) := by
  refine ⟨_, isAlphanumeric_of_mem_run t (searchLimit t amp) (amp + 1), ?_⟩
  rcases searchEnd_cases t amp with ⟨-, hsemi, h⟩ | h <;> rw [searched, h]
  · exact Or.inr (extract_succ (le_runEnd t _ _) hsemi)
  · exact Or.inl rfl

/-- The search by positions finds what the trie finds. -/
theorem search?_eq_longestNamed? :
    search? t amp = (longestNamed? (t.drop (amp + 1))).map fun found => found.1.name := by
  ext w
  rw [search?, longestUpTo?_eq_some_iff, name_longestNamed?_eq_some_iff]
  exact isLongestName_congr fun r hr => prefix_searched_iff hr

end SearchEnd

/-- **The search by positions finds the longest name.**  There are 2231 names, all different, and
the longest has 32 code points.  Behind an ampersand, wherever it stands in a text, the search looks
at a word of no more code points than that, and yet finds the longest name that the whole text
behind the ampersand starts with, and none exactly if that text starts with no name.  The trie finds
the same name, in the text behind the ampersand and in the part of it that the search looks at. -/
theorem search?_finds_longest :
    (table.length = 2231 ∧ (table.map Named.name).Nodup ∧ longestLength = 32) ∧
      ∀ (t : Text) (amp : ℕ),
        (searched t amp <+: t.drop (amp + 1) ∧ (searched t amp).length ≤ longestLength ∧
          IsWord (searched t amp)) ∧
        (∀ w, search? t amp = some w ↔ IsLongestName w (t.drop (amp + 1))) ∧
        (search? t amp = none ↔ ∀ r ∈ table, ¬ r.name <+: t.drop (amp + 1)) ∧
        (search? t amp = (longestNamed? (t.drop (amp + 1))).map fun found => found.1.name) ∧
        search? t amp = (longestNamed? (searched t amp)).map fun found => found.1.name := by
  refine ⟨⟨length_table, nodup_names, longestLength_eq⟩, fun t amp => ?_⟩
  refine ⟨⟨?_, length_searched_le, isWord_searched⟩, fun w => ?_, ?_, search?_eq_longestNamed?, ?_⟩
  · exact (prefix_extract_iff.1 (List.prefix_refl (searched t amp))).1
  · rw [search?_eq_longestNamed?, name_longestNamed?_eq_some_iff]
  · rw [search?_eq_longestNamed?, Option.map_eq_none_iff, longestNamed?_eq_none_iff]
  · ext w
    rw [search?, longestUpTo?_eq_some_iff, name_longestNamed?_eq_some_iff, searched]

end TokenConformance.Reference
