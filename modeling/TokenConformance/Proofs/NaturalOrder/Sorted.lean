import Mathlib.Data.List.Nodup
import TokenConformance.NaturalOrder
import TokenConformance.Proofs.ExceptLaws

/-!
# Sorting by the natural order — what comes out and in which order

The orders of texts, pieces and keys are lexicographic, so they are total and transitive.  What is
sorted holds the same items, each standing in front of those that its name precedes, and items with
equal keys stay in the order in which they came (`sorted_of_sortBy`).  Sorting succeeds if every key
exists and any two are comparable (`exists_sortBy`).  It changes nothing where the order is right already
(`sortBy_of_pairwise`), and comes out the same for every order of items whose names have different keys
(`eq_of_sortedBy`).
-/

namespace TokenConformance

/-! ### The orders -/

theorem Text.compare_eq_compareLex : ∀ s t : Text,
    Text.compare s t = List.compareLex (compareOn Fin.val) s t
  | [], [] => rfl
  | [], _ :: _ => rfl
  | _ :: _, [] => rfl
  | a :: s, b :: t => by
    rw [Text.compare, List.compareLex_cons_cons, compare_eq_compareLex s t]
    rfl

namespace Natural

theorem Piece.compare_swap (p q : Piece) : p.compare q = (q.compare p).swap := by
  cases p <;> cases q <;> simp only [Piece.compare]
  · rw [Text.compare_eq_compareLex, Text.compare_eq_compareLex]
    exact Std.OrientedCmp.eq_swap
  · rfl
  · rfl
  · exact Std.OrientedOrd.eq_swap

instance : Std.OrientedCmp Piece.compare := ⟨Piece.compare_swap _ _⟩

instance : Std.TransCmp Piece.compare where
  isLE_trans {p q r} hpq hqr := by
    cases p <;> cases q <;> cases r <;>
      simp only [Piece.compare, Text.compare_eq_compareLex] at *
    case text.text.text => exact Std.TransCmp.isLE_trans hpq hqr
    case number.number.number => exact Std.TransCmp.isLE_trans hpq hqr
    -- where the kinds differ, the outcome is known: the goal holds or an assumption does not
    all_goals first | rfl | exact absurd hpq (by decide) | exact absurd hqr (by decide)

/-- Only equal pieces are as great as each other. -/
instance : Std.LawfulEqCmp Piece.compare where
  compare_self := Std.ReflCmp.compare_self
  eq_of_compare {p q} h := by
    cases p <;> cases q <;> simp only [Piece.compare] at h
    case text.text s t =>
      have : Std.LawfulEqCmp (compareOn (Fin.val : CodePoint → Nat)) :=
        ⟨fun hab => Fin.ext (Std.LawfulEqCmp.eq_of_compare hab)⟩
      rw [Text.compare_eq_compareLex] at h
      rw [Std.LawfulEqCmp.eq_of_compare h]
    case number.number m n => rw [Std.LawfulEqCmp.eq_of_compare h]
    all_goals cases h

theorem compareKeys_eq_compareLex : ∀ k l : List Piece,
    compareKeys k l = List.compareLex Piece.compare k l
  | [], [] => rfl
  | [], _ :: _ => rfl
  | _ :: _, [] => rfl
  | p :: k, q :: l => by
    rw [compareKeys, List.compareLex_cons_cons, compareKeys_eq_compareLex k l]

theorem isLE_compareKeys_trans (k l m : List Piece) (hkl : (compareKeys k l).isLE = true)
    (hlm : (compareKeys l m).isLE = true) : (compareKeys k m).isLE = true := by
  rw [compareKeys_eq_compareLex] at *
  exact Std.TransCmp.isLE_trans hkl hlm

theorem compareKeys_swap (k l : List Piece) : compareKeys k l = (compareKeys l k).swap := by
  rw [compareKeys_eq_compareLex, compareKeys_eq_compareLex]
  exact Std.OrientedCmp.eq_swap

theorem isLE_compareKeys_total (k l : List Piece) :
    ((compareKeys k l).isLE || (compareKeys l k).isLE) = true := by
  rw [compareKeys_swap l k]
  cases compareKeys k l <;> rfl

/-- Keys that come no later than each other are the same. -/
theorem eq_of_isLE_compareKeys {k l : List Piece} (hkl : (compareKeys k l).isLE = true)
    (hlk : (compareKeys l k).isLE = true) : k = l := by
  have heq : compareKeys k l = .eq := by
    rw [compareKeys_swap l k] at hlk
    cases hcompare : compareKeys k l with
    | eq => rfl
    | lt => rw [hcompare] at hlk; cases hlk
    | gt => rw [hcompare] at hkl; cases hkl
  rw [compareKeys_eq_compareLex] at heq
  exact Std.LawfulEqCmp.eq_of_compare heq

/-! ### Sorting -/

/-- A name comes no later than another in the natural order. -/
def Precedes (s t : Text) : Prop :=
  ∃ k l, key s = .ok k ∧ key t = .ok l ∧ (compareKeys k l).isLE = true

/-- Two names have keys, and these can be compared. -/
def Comparable (s t : Text) : Prop :=
  ∃ k l, key s = .ok k ∧ key t = .ok l ∧ comparable k l = true

theorem comparable_iff {s t : Text} : Comparable s t ↔
    ∃ k, key s = .ok k ∧ ∃ l, key t = .ok l ∧ comparable k l = true := by
  constructor
  · rintro ⟨k, l, hk, hl, hkl⟩
    exact ⟨k, hk, l, hl, hkl⟩
  · rintro ⟨k, hk, l, hl, hkl⟩
    exact ⟨k, l, hk, hl, hkl⟩

instance {s t : Text} : Decidable (Comparable s t) := decidable_of_iff' _ comparable_iff

section Names

variable {s t u : Text}

theorem precedes_iff_of_key {k l : List Piece} (hk : key s = .ok k) (hl : key t = .ok l) :
    Precedes s t ↔ (compareKeys k l).isLE = true := by
  constructor
  · rintro ⟨k', l', hk', hl', hle⟩
    cases hk.symm.trans hk'
    cases hl.symm.trans hl'
    exact hle
  · exact fun hle => ⟨k, l, hk, hl, hle⟩

theorem Precedes.trans (hst : Precedes s t) (htu : Precedes t u) : Precedes s u := by
  obtain ⟨k, l, hk, hl, hkl⟩ := hst
  obtain ⟨m, hm, hle⟩ : ∃ m, key u = .ok m ∧ (compareKeys l m).isLE = true := by
    obtain ⟨l', m, hl', hm, hlm⟩ := htu
    cases hl.symm.trans hl'
    exact ⟨m, hm, hlm⟩
  exact ⟨k, m, hk, hm, isLE_compareKeys_trans k l m hkl hle⟩

/-- Names that come no later than each other have the same key. -/
theorem Precedes.key_eq (hst : Precedes s t) (hts : Precedes t s) : key s = key t := by
  obtain ⟨k, l, hk, hl, hkl⟩ := hst
  rw [hk, hl, eq_of_isLE_compareKeys hkl ((precedes_iff_of_key hl hk).1 hts)]

end Names

/-- The same items in natural order of their names.  Items whose order is right already keep it, so
that ties stay as they were. -/
structure SortedBy {α : Type} (name : α → Text) (items sorted : List α) : Prop where
  perm : sorted.Perm items
  ordered : sorted.Pairwise fun a b => Precedes (name a) (name b)
  stable : ∀ a b, Precedes (name a) (name b) → [a, b].Sublist items → [a, b].Sublist sorted

section Sorting

variable {α : Type} {name : α → Text} {items sorted : List α}

/-- Each item beside its key: the key is that of its name, and the item is its own. -/
theorem keyed_of_mapM {keyed : List (List Piece × α)}
    (h : (items.mapM fun item => (key (name item)).map (·, item)) = .ok keyed) :
    keyed.map Prod.snd = items ∧ ∀ p ∈ keyed, key (name p.2) = .ok p.1 := by
  have hsnd : ∀ (item : α) (p : List Piece × α),
      (key (name item)).map (·, item) = .ok p → p.2 = item := by
    intro item p hp
    cases hkey : key (name item) with
    | error e => rw [hkey] at hp; cases hp
    | ok k => rw [hkey] at hp; cases hp; rfl
  obtain ⟨hitems, hkeys⟩ := Except.map_of_mapM_eq_ok hsnd h
  refine ⟨hitems, ?_⟩
  rintro ⟨k, item⟩ hp
  have hpkey := hkeys (k, item) hp
  cases hkey : key (name item) with
  | error e => rw [hkey] at hpkey; cases hpkey
  | ok k' => rw [hkey] at hpkey; cases hpkey; rfl

/-- What sorting gives is sorted. -/
theorem sorted_of_sortBy (h : sortBy name items = .ok sorted) : SortedBy name items sorted := by
  unfold sortBy at h
  split at h
  · cases h
  · rename_i keyed hkeyed
    obtain ⟨rfl, hkeys⟩ := keyed_of_mapM hkeyed
    split at h
    · cases h
      have htrans := fun (p q r : List Piece × α) => isLE_compareKeys_trans p.1 q.1 r.1
      have htotal := fun (p q : List Piece × α) => isLE_compareKeys_total p.1 q.1
      refine ⟨(List.mergeSort_perm _ _).map _, ?_, fun a b hab hsub => ?_⟩
      · refine List.pairwise_map.2 ?_
        refine (List.pairwise_mergeSort htrans htotal keyed).imp_of_mem fun hp hq hpq => ?_
        exact ⟨_, _, hkeys _ (List.mem_mergeSort.1 hp), hkeys _ (List.mem_mergeSort.1 hq), hpq⟩
      · -- the pair stands in the list of items with their keys, and these are sorted
        obtain ⟨pair, hpair, heq⟩ := List.sublist_map_iff.1 hsub
        match pair, heq with
        | [p, q], heq =>
          cases heq
          obtain ⟨k, l, hk, hl, hle⟩ := hab
          rw [hkeys p (hpair.subset (by simp))] at hk
          rw [hkeys q (hpair.subset (by simp))] at hl
          cases hk
          cases hl
          exact (List.pair_sublist_mergeSort htrans htotal hle hpair).map Prod.snd
    · cases h

/-- Sorting succeeds if any two names can be compared. -/
theorem exists_sortBy (h : ∀ a ∈ items, ∀ b ∈ items, Comparable (name a) (name b)) :
    ∃ sorted, sortBy name items = .ok sorted := by
  obtain ⟨keyed, hkeyed⟩ : ∃ keyed,
      (items.mapM fun item => (key (name item)).map (·, item)) = .ok keyed := by
    refine Except.exists_mapM_eq_ok fun a ha => ?_
    obtain ⟨k, -, hk, -⟩ := h a ha a ha
    exact ⟨(k, a), by rw [hk]; rfl⟩
  obtain ⟨rfl, hkeys⟩ := keyed_of_mapM hkeyed
  have hall : (keyed.all fun p => keyed.all fun q => comparable p.1 q.1) = true := by
    rw [List.all_eq_true]
    intro p hp
    rw [List.all_eq_true]
    intro q hq
    obtain ⟨k, l, hk, hl, hkl⟩ :=
      h p.2 (List.mem_map_of_mem hp) q.2 (List.mem_map_of_mem hq)
    rw [hkeys p hp] at hk
    rw [hkeys q hq] at hl
    cases hk
    cases hl
    exact hkl
  unfold sortBy
  rw [hkeyed]
  exact ⟨_, if_pos hall⟩

/-- What sorting succeeds on can be compared. -/
theorem comparable_of_sortBy (h : sortBy name items = .ok sorted) :
    ∀ a ∈ items, ∀ b ∈ items, Comparable (name a) (name b) := by
  unfold sortBy at h
  split at h
  · cases h
  · rename_i keyed hkeyed
    obtain ⟨rfl, hkeys⟩ := keyed_of_mapM hkeyed
    split at h
    · rename_i hall
      intro a ha b hb
      obtain ⟨p, hp, rfl⟩ := List.mem_map.1 ha
      obtain ⟨q, hq, rfl⟩ := List.mem_map.1 hb
      exact ⟨p.1, q.1, hkeys p hp, hkeys q hq, List.all_eq_true.1 (List.all_eq_true.1 hall p hp) q hq⟩
    · cases h

/-- What is in order already stays as it is. -/
theorem sortBy_of_pairwise (hcomparable : ∀ a ∈ items, ∀ b ∈ items, Comparable (name a) (name b))
    (h : items.Pairwise fun a b => Precedes (name a) (name b)) : sortBy name items = .ok items := by
  obtain ⟨sorted, hsorted⟩ := exists_sortBy hcomparable
  rw [hsorted]
  unfold sortBy at hsorted
  split at hsorted
  · cases hsorted
  · rename_i keyed hkeyed
    obtain ⟨rfl, hkeys⟩ := keyed_of_mapM hkeyed
    have hordered : keyed.Pairwise fun p q => (compareKeys p.1 q.1).isLE = true :=
      (List.pairwise_map.1 h).imp_of_mem fun hp hq hpq =>
        (precedes_iff_of_key (hkeys _ hp) (hkeys _ hq)).1 hpq
    split at hsorted
    · cases hsorted
      rw [List.mergeSort_of_pairwise hordered]
    · cases hsorted

/-- Sorting does not depend on the order of the items if their names have different keys. -/
theorem eq_of_sortedBy {items' sorted' : List α} (hperm : items.Perm items')
    (hkeys : (items.map fun a => key (name a)).Nodup) (h : SortedBy name items sorted)
    (h' : SortedBy name items' sorted') : sorted = sorted' := by
  refine List.Perm.eq_of_pairwise (fun a b ha hb hab hba => ?_) h.ordered h'.ordered
    ((h.perm.trans hperm).trans h'.perm.symm)
  have hb' : b ∈ items := hperm.symm.subset (h'.perm.subset hb)
  exact List.inj_on_of_nodup_map hkeys (h.perm.subset ha) hb' (hab.key_eq hba)

end Sorting

end Natural

end TokenConformance
