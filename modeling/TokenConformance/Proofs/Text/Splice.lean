import TokenConformance.Text.CodePoint

/-!
# Splicing — code points in the place of windows of a text

A window is a number of code points side by side that stand for another one.  `Text.splice` puts that
one in place of each window, and says so index by index of the text itself: nothing that has been put in
is read again.  Where windows do not overlap (`Text.Windows`), the text may be gone through from left to
right (`Text.splice_cons`, `Text.Windows.splice_of_read`).
-/

namespace TokenConformance.Text

/-! ## Definitions -/

section Defs

variable (width : Nat) (read : Text → Option CodePoint)

/-- An index lies within a window that begins before it. -/
def Within (t : Text) (i : Nat) : Prop := ∃ j, j < i ∧ i < j + width ∧ (read (t.drop j)).isSome = true

instance (t : Text) (i : Nat) : Decidable (Within width read t i) :=
  inferInstanceAs (Decidable (∃ j, j < i ∧ _))

/-- What comes of an index: the code point that a window beginning there stands for, nothing within a
window, and otherwise what stands there. -/
def spliceAt (t : Text) (i : Nat) : Text :=
  match read (t.drop i) with
  | some c => [c]
  | none => if Within width read t i then [] else t[i]?.toList

/-- The text with each window replaced by the code point that it stands for. -/
def splice (t : Text) : Text := (List.range t.length).flatMap (spliceAt width read t)

/-- Windows of one width that do not overlap. -/
structure Windows : Prop where
  pos : 0 < width
  length_le : ∀ {t c}, read t = some c → width ≤ t.length
  apart : ∀ {t c}, read t = some c → ∀ k, 0 < k → k < width → read (t.drop k) = none

end Defs

/-! ## From left to right -/

section Recursion

variable {width : Nat} {read : Text → Option CodePoint} {t : Text} {c : CodePoint} {k : Nat}

/-- Windows that end before an index have no part in what comes of it and of those behind it. -/
theorem within_drop_iff (h : ∀ j < k, read (t.drop j) = none ∨ j + width ≤ k) (i : Nat) :
    Within width read t (k + i) ↔ Within width read (t.drop k) i := by
  constructor
  · rintro ⟨j, hj, hwidth, hread⟩
    by_cases hjk : j < k
    · rcases h j hjk with hnone | hends
      · rw [hnone] at hread
        cases hread
      · omega
    · refine ⟨j - k, by omega, by omega, ?_⟩
      rwa [List.drop_drop, Nat.add_sub_cancel' (Nat.le_of_not_lt hjk)]
  · rintro ⟨j, hj, hwidth, hread⟩
    rw [List.drop_drop] at hread
    exact ⟨k + j, by omega, by omega, hread⟩

theorem spliceAt_drop (h : ∀ j < k, read (t.drop j) = none ∨ j + width ≤ k) (i : Nat) :
    spliceAt width read t (k + i) = spliceAt width read (t.drop k) i := by
  unfold spliceAt
  rw [List.drop_drop, List.getElem?_drop]
  simp only [within_drop_iff h]

/-- A text may be cut where no window crosses the cut. -/
theorem splice_eq_append (hk : k ≤ t.length)
    (h : ∀ j < k, read (t.drop j) = none ∨ j + width ≤ k) :
    splice width read t =
      (List.range k).flatMap (spliceAt width read t) ++ splice width read (t.drop k) := by
  have hlength : t.length = k + (t.drop k).length := by
    rw [List.length_drop]
    omega
  rw [splice, hlength, List.range_add, List.flatMap_append, List.flatMap_map]
  simp only [spliceAt_drop h]
  rfl

/-- A code point at which no window begins stays. -/
theorem splice_cons (h : read (c :: t) = none) :
    splice width read (c :: t) = c :: splice width read t := by
  have hcut : splice width read (c :: t) =
      (List.range 1).flatMap (spliceAt width read (c :: t)) ++ splice width read t :=
    splice_eq_append (by simp) fun j hj => .inl (by rwa [Nat.lt_one_iff.1 hj])
  have hfirst : spliceAt width read (c :: t) 0 = [c] := by
    have hwithin : ¬ Within width read (c :: t) 0 := fun ⟨j, hj, _⟩ => Nat.not_lt_zero j hj
    rw [spliceAt, List.drop_zero, h]
    exact if_neg hwithin
  rw [hcut, List.range_one, List.flatMap_singleton, hfirst]
  rfl

/-- A window at the beginning is replaced as a whole. -/
theorem Windows.splice_of_read (hw : Windows width read) (h : read t = some c) :
    splice width read t = c :: splice width read (t.drop width) := by
  have hcut : splice width read t =
      (List.range width).flatMap (spliceAt width read t) ++ splice width read (t.drop width) := by
    refine splice_eq_append (hw.length_le h) fun j hj => ?_
    by_cases hzero : j = 0
    · exact .inr (by omega)
    · exact .inl (hw.apart h j (Nat.pos_of_ne_zero hzero) hj)
  have hfirst : spliceAt width read t 0 = [c] := by
    rw [spliceAt, List.drop_zero, h]
  have hothers : ∀ i, 0 < i → i < width → spliceAt width read t i = [] := by
    intro i hi hwidth
    have hwithin : Within width read t i := ⟨0, hi, by omega, by rw [List.drop_zero, h]; rfl⟩
    rw [spliceAt, hw.apart h i hi hwidth]
    exact if_pos hwithin
  have hwindow : (List.range width).flatMap (spliceAt width read t) = [c] := by
    obtain ⟨rest, hrest⟩ := Nat.exists_eq_succ_of_ne_zero (Nat.ne_of_gt hw.pos)
    have hrange : List.range width = 0 :: (List.range rest).map Nat.succ := by
      rw [hrest, List.range_succ_eq_map]
    have hnil : ((List.range rest).map Nat.succ).flatMap (spliceAt width read t) = [] := by
      refine List.flatMap_eq_nil_iff.2 fun i hi => ?_
      obtain ⟨j, hj, rfl⟩ := List.mem_map.1 hi
      rw [List.mem_range] at hj
      exact hothers _ (Nat.succ_pos j) (by omega)
    rw [hrange, List.flatMap_cons, hfirst, hnil]
    rfl
  rw [hcut, hwindow]
  rfl

end Recursion

end TokenConformance.Text
