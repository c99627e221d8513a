import Mathlib.Data.List.Basic
import TokenConformance.Proofs.Text.Pieces

/-!
# Written forms — what is written one after another can be told apart

A written form is told apart where whatever follows does not change what was written
(`Text.ToldApart`).  Lists of such things up to a closing code point are told apart as well, written
one behind the other (`ToldApart.flatMap`) or with a separator between them (`ToldApart.join`), as long
as nothing that is written opens like the end of the list (`Text.OpensApart`).
-/

namespace TokenConformance.Text

variable {α : Type} {write : α → Text} {P : α → Prop} {close : CodePoint} {a : α}

/-! ## Definitions -/

section Defs

/-- Where the written form of `a` and that of something else which is `P` begin the same text, the two
are the same, and so is what follows. -/
def ToldApart (write : α → Text) (P : α → Prop) (a : α) : Prop :=
  ∀ b, P b → ∀ s t, write a ++ s = write b ++ t → a = b ∧ s = t

/-- What is written does not begin with `close`, nor is it empty. -/
def OpensApart (write : α → Text) (close : CodePoint) (a : α) : Prop :=
  ∀ s t, write a ++ s ≠ close :: t

end Defs

/-! ## Lists -/

section Lists

/-- Something common in front changes nothing. -/
theorem ToldApart.prepend (h : ToldApart write P a) (sep : Text) :
    ToldApart (fun a => sep ++ write a) P a := by
  intro b hb s t heq
  rw [List.append_assoc, List.append_assoc, List.append_cancel_left_eq] at heq
  exact h b hb s t heq

/-- A list up to its end is told apart where its items are. -/
theorem ToldApart.flatMap {l : List α} (hl : ∀ a ∈ l, P a)
    (hitems : ∀ a ∈ l, ToldApart write P a) (hopen : ∀ a, P a → OpensApart write close a) :
    ToldApart (fun l => l.flatMap write ++ [close]) (fun m => ∀ b ∈ m, P b) l := by
  intro m hm s t heq
  simp only [List.append_assoc, List.singleton_append] at heq
  induction l generalizing m with
  | nil =>
    cases m with
    | nil => exact ⟨rfl, (List.cons.inj heq).2⟩
    | cons b m =>
      rw [List.flatMap_cons, List.append_assoc] at heq
      exact absurd heq.symm (hopen b (hm b List.mem_cons_self) _ _)
  | cons a l ih =>
    obtain ⟨hitem, hitems⟩ := List.forall_mem_cons.1 hitems
    obtain ⟨ha, hl⟩ := List.forall_mem_cons.1 hl
    rw [List.flatMap_cons, List.append_assoc] at heq
    cases m with
    | nil => exact absurd heq (hopen a ha _ _)
    | cons b m =>
      obtain ⟨hb, hm'⟩ := List.forall_mem_cons.1 hm
      rw [List.flatMap_cons, List.append_assoc] at heq
      obtain ⟨rfl, hrest⟩ := hitem b hb _ _ heq
      obtain ⟨rfl, hend⟩ := ih hl hitems m hm' hrest
      exact ⟨rfl, hend⟩

theorem join_cons (sep t : Text) (ts : List Text) :
    join sep (t :: ts) = t ++ ts.flatMap (sep ++ ·) := by
  induction ts generalizing t with
  | nil => exact (List.append_nil t).symm
  | cons u ts ih => rw [join, ih, List.flatMap_cons, List.append_assoc] <;> simp

theorem notMem_join {c : CodePoint} {sep : Text} (hsep : c ∉ sep) {ts : List Text}
    (h : ∀ t ∈ ts, c ∉ t) : c ∉ join sep ts := by
  cases ts with
  | nil => exact List.not_mem_nil
  | cons t ts =>
    obtain ⟨ht, hts⟩ := List.forall_mem_cons.1 h
    rw [join_cons, List.mem_append, List.mem_flatMap, not_or]
    refine ⟨ht, ?_⟩
    rintro ⟨u, hu, hmem⟩
    exact (List.mem_append.1 hmem).elim hsep (hts u hu)

/-- A list with separators up to its end is told apart where its items are. -/
theorem ToldApart.join {c : CodePoint} {sep : Text} (hc : c ≠ close) {l : List α}
    (hl : ∀ a ∈ l, P a) (hitems : ∀ a ∈ l, ToldApart write P a)
    (hopen : ∀ a, P a → OpensApart write close a) :
    ToldApart (fun l => Text.join (c :: sep) (l.map write) ++ [close]) (fun m => ∀ b ∈ m, P b)
      l := by
  intro m hm s t heq
  simp only [List.append_assoc, List.singleton_append] at heq
  cases l with
  | nil =>
    cases m with
    | nil => exact ⟨rfl, (List.cons.inj heq).2⟩
    | cons b m =>
      rw [List.map_cons, join_cons, List.append_assoc] at heq
      exact absurd heq.symm (hopen b (hm b List.mem_cons_self) _ _)
  | cons a l =>
    obtain ⟨hitem, hitems⟩ := List.forall_mem_cons.1 hitems
    obtain ⟨ha, hl⟩ := List.forall_mem_cons.1 hl
    rw [List.map_cons, join_cons, List.append_assoc, List.flatMap_map] at heq
    cases m with
    | nil => exact absurd heq (hopen a ha _ _)
    | cons b m =>
      obtain ⟨hb, hm'⟩ := List.forall_mem_cons.1 hm
      rw [List.map_cons, join_cons, List.append_assoc, List.flatMap_map] at heq
      obtain ⟨rfl, hrest⟩ := hitem b hb _ _ heq
      -- behind the first item each one has the separator in front of it
      have hsep : ∀ a, OpensApart (fun a => (c :: sep) ++ write a) close a :=
        fun a s t heq => hc (List.cons.inj heq).1
      have htold := ToldApart.flatMap hl (fun a ha => (hitems a ha).prepend (c :: sep))
        (fun a _ => hsep a) m hm' s t
      simp only [List.append_assoc, List.singleton_append] at htold
      obtain ⟨rfl, hend⟩ := htold hrest
      exact ⟨rfl, hend⟩

/-- Lines that are not empty can be read off the text that they are joined to. -/
theorem join_map_injective {sep : CodePoint} (hinj : Function.Injective write)
    (hsep : ∀ a, sep ∉ write a) (hnil : ∀ a, write a ≠ []) :
    Function.Injective fun l : List α => Text.join [sep] (l.map write) := by
  have hpieces : ∀ {l : List α}, l ≠ [] →
      splitOn sep (Text.join [sep] (l.map write)) = l.map write := by
    intro l hl
    refine splitOn_join (by simpa using hl) fun piece hpiece => ?_
    obtain ⟨a, -, rfl⟩ := List.mem_map.1 hpiece
    exact hsep a
  have hempty : ∀ {l : List α}, Text.join [sep] (l.map write) = [] → l = [] := by
    intro l hl
    cases l with
    | nil => rfl
    | cons a l =>
      rw [List.map_cons, join_cons, List.append_eq_nil_iff] at hl
      exact absurd hl.1 (hnil a)
  intro l m (heq : Text.join [sep] (l.map write) = Text.join [sep] (m.map write))
  by_cases hl : l = []
  · subst hl
    exact (hempty heq.symm).symm
  · have hm : m ≠ [] := by
      rintro rfl
      exact hl (hempty heq)
    have hlines := congrArg (splitOn sep) heq
    rw [hpieces hl, hpieces hm] at hlines
    exact hinj.list_map hlines

end Lists

end TokenConformance.Text
