import Mathlib.Data.List.Forall2
import Mathlib.Data.List.Perm.Subperm
import TokenConformance.Proofs.OrderedMapLaws
import TokenConformance.Token.Basic

/-!
# Sameness — tokens that agree, the order of attributes aside

Maps are similar when the entries of one are those of the other in some order
(`OrderedMap.similar_iff_perm`), so being the same is reflexive and symmetric (`Token.same_self`,
`Token.same_comm`).  Lists are the same when their tokens are, one by one (`Token.sameList_iff_forall₂`);
otherwise the lengths differ or the tokens at some position do (`Token.sameList_eq_false_iff`).
-/

namespace TokenConformance

theorem OrderedMap.similar_iff_perm {κ ν : Type} [DecidableEq κ] [DecidableEq ν]
    {m n : OrderedMap κ ν} : m.similar n = true ↔ m.entries.Perm n.entries := by
  refine ⟨fun h => ?_, similar_of_perm⟩
  rw [similar, Bool.and_eq_true, beq_iff_eq, List.all_eq_true] at h
  obtain ⟨hsize, hall⟩ := h
  have hsubset : m.entries ⊆ n.entries := fun p hp => get?_eq_some_iff.1 (beq_iff_eq.1 (hall p hp))
  have hnodup : m.entries.Nodup := List.Nodup.of_map _ m.nodup
  exact (List.subperm_of_subset hnodup hsubset).perm_of_length_le (Nat.le_of_eq hsize.symm)

theorem OrderedMap.similar_comm {κ ν : Type} [DecidableEq κ] [DecidableEq ν]
    (m n : OrderedMap κ ν) : m.similar n = n.similar m := by
  rw [Bool.eq_iff_iff, similar_iff_perm, similar_iff_perm, List.perm_comm]

namespace Token

variable {ss ts : List Token}

theorem same_self (t : Token) : t.same t = true := by
  cases t <;> simp [same, OrderedMap.similar_of_perm]

theorem same_comm (s t : Token) : s.same t = t.same s := by
  have heq : (s == t) = (t == s) := Bool.beq_comm
  cases s with
  | startTag name attributes selfClosing =>
    cases t with
    | startTag name' attributes' selfClosing' =>
      rw [same, same, OrderedMap.similar_comm, Bool.beq_comm (a := name),
        Bool.beq_comm (a := selfClosing)]
    | _ => exact heq
  | _ => cases t <;> exact heq

theorem sameList_iff_forall₂ : ∀ {ss ts : List Token},
    sameList ss ts = true ↔ List.Forall₂ (fun s t => s.same t = true) ss ts
  | [], [] => iff_of_true rfl .nil
  | [], _ :: _ => iff_of_false nofun nofun
  | _ :: _, [] => iff_of_false nofun nofun
  | s :: ss, t :: ts => by
    show (s.same t && sameList ss ts) = true ↔ _
    rw [Bool.and_eq_true, List.forall₂_cons, sameList_iff_forall₂]

theorem sameList_self (ts : List Token) : sameList ts ts = true :=
  sameList_iff_forall₂.2 (List.forall₂_same.2 fun t _ => same_self t)

theorem sameList_comm (ss ts : List Token) : sameList ss ts = sameList ts ss := by
  have hflip : ∀ {ss ts : List Token}, sameList ss ts = true → sameList ts ss = true := by
    intro ss ts h
    rw [sameList_iff_forall₂] at h ⊢
    refine h.flip.imp fun t s hsame => ?_
    rw [same_comm]
    exact hsame
  exact Bool.eq_iff_iff.2 ⟨hflip, hflip⟩

/-- Lists that are not the same differ in length, or in a position that both have. -/
theorem sameList_eq_false_iff : sameList ss ts = false ↔
    ss.length ≠ ts.length ∨ ∃ (i : ℕ) (s t : Token), ss[i]? = some s ∧ ts[i]? = some t ∧
      s.same t = false := by
  rw [← Bool.not_eq_true, sameList_iff_forall₂, List.forall₂_iff_get, not_and_or]
  refine or_congr_right ⟨fun h => ?_, ?_⟩
  · simp only [not_forall] at h
    obtain ⟨i, hs, ht, hdiff⟩ := h
    exact ⟨i, _, _, List.getElem?_eq_getElem hs, List.getElem?_eq_getElem ht, by simpa using hdiff⟩
  · rintro ⟨i, s, t, hs, ht, hdiff⟩ h
    obtain ⟨his, rfl⟩ := List.getElem?_eq_some_iff.1 hs
    obtain ⟨hit, rfl⟩ := List.getElem?_eq_some_iff.1 ht
    rw [← Bool.not_eq_true] at hdiff
    exact hdiff (h i his hit)

end Token

end TokenConformance
