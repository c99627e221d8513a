import Mathlib.Data.List.Forall2

/-!
# Steps that may fail — when all items of a list succeed

Going through a list succeeds exactly if each item does (`mapM_eq_ok_iff`), and fails as its first item
that fails (`mapM_eq_error_iff_first`).  Where the outcomes tell the items, they stand for them in order
(`map_of_mapM_eq_ok`).
-/

namespace TokenConformance.Except

variable {α β ε ε' : Type} {f : α → Except ε β}

theorem mapError_eq_ok_iff {g : ε → ε'} {x : Except ε α} {a : α} :
    x.mapError g = .ok a ↔ x = .ok a := by
  cases x <;> simp [Except.mapError]

theorem map_eq_ok_iff {g : α → β} {x : Except ε α} {b : β} :
    x.map g = .ok b ↔ ∃ a, x = .ok a ∧ g a = b := by
  cases x <;> simp [Except.map]

theorem map_eq_error_iff {g : α → β} {x : Except ε α} {e : ε} :
    x.map g = .error e ↔ x = .error e := by
  cases x <;> simp [Except.map]

theorem bind_eq_ok_iff {x : Except ε α} {b : β} :
    (x >>= f) = .ok b ↔ ∃ a, x = .ok a ∧ f a = .ok b := by
  cases x with
  | error e => exact ⟨nofun, fun ⟨_, h, _⟩ => nomatch h⟩
  | ok a => exact ⟨fun h => ⟨a, rfl, h⟩, fun ⟨_, h, h'⟩ => by cases h; exact h'⟩

theorem bind_eq_error_iff {x : Except ε α} {e : ε} :
    (x >>= f) = .error e ↔ x = .error e ∨ ∃ a, x = .ok a ∧ f a = .error e := by
  constructor
  · intro h
    cases x with
    | error e' =>
      cases h
      exact Or.inl rfl
    | ok a => exact Or.inr ⟨a, rfl, h⟩
  · rintro (rfl | ⟨a, rfl, h⟩)
    · rfl
    · exact h

/-- What fails for one reason only succeeds exactly if the reason is not given. -/
theorem exists_eq_ok_iff {reason : ε} {x : Except ε α} {P : Prop}
    (h : ∀ e, x = .error e ↔ e = reason ∧ P) : (∃ a, x = .ok a) ↔ ¬ P := by
  cases x with
  | error e =>
    have hP := ((h e).1 rfl).2
    exact ⟨nofun, fun hn => absurd hP hn⟩
  | ok a =>
    refine ⟨fun _ hP => ?_, fun _ => ⟨a, rfl⟩⟩
    have hfail := (h reason).2 ⟨rfl, hP⟩
    cases hfail

instance decidableExistsOk {x : Except ε α} {P : α → Prop} [DecidablePred P] :
    Decidable (∃ a, x = .ok a ∧ P a) :=
  match x with
  | .ok a => decidable_of_iff (P a) ⟨fun h => ⟨a, rfl, h⟩, fun ⟨_, h, h'⟩ => by cases h; exact h'⟩
  | .error _ => isFalse fun ⟨_, h, _⟩ => nomatch h

instance decidableForallOk {x : Except ε α} {P : α → Prop} [DecidablePred P] :
    Decidable (∀ a, x = .ok a → P a) :=
  match x with
  | .ok a => decidable_of_iff (P a) ⟨fun h _ h' => by cases h'; exact h, fun h => h a rfl⟩
  | .error _ => isTrue nofun

theorem mapM_eq_ok_iff : ∀ {l : List α} {out : List β},
    l.mapM f = .ok out ↔ List.Forall₂ (fun a b => f a = .ok b) l out
  | [], out => by
    rw [List.mapM_nil, List.forall₂_nil_left_iff]
    exact ⟨fun h => by cases h; rfl, fun h => by rw [h]; rfl⟩
  | a :: l, out => by
    rw [List.mapM_cons, bind_eq_ok_iff, List.forall₂_cons_left_iff]
    constructor
    · rintro ⟨b, hb, h⟩
      obtain ⟨rest, hrest, hout⟩ := bind_eq_ok_iff.1 h
      cases hout
      exact ⟨b, rest, hb, mapM_eq_ok_iff.1 hrest, rfl⟩
    · rintro ⟨b, rest, hb, hrest, rfl⟩
      exact ⟨b, hb, bind_eq_ok_iff.2 ⟨rest, mapM_eq_ok_iff.2 hrest, rfl⟩⟩

theorem exists_of_mem_mapM {l : List α} {out : List β} (h : l.mapM f = .ok out) {b : β}
    (hb : b ∈ out) : ∃ a ∈ l, f a = .ok b := by
  obtain ⟨i, hi, rfl⟩ := List.getElem_of_mem hb
  have hall := mapM_eq_ok_iff.1 h
  have hlt : i < l.length := hall.length_eq ▸ hi
  exact ⟨l[i], List.getElem_mem hlt, hall.get hlt hi⟩

/-- Where items fail for one reason only, a list fails for it exactly if one of its items does. -/
theorem mapM_eq_error_iff {reason : ε} {P : α → Prop}
    (h : ∀ a e, f a = .error e ↔ e = reason ∧ P a) : ∀ {l : List α} {e : ε},
      l.mapM f = .error e ↔ e = reason ∧ ∃ a ∈ l, P a
  | [], e => ⟨nofun, fun ⟨_, _, ha, _⟩ => absurd ha List.not_mem_nil⟩
  | a :: l, e => by
    have ih := @mapM_eq_error_iff reason P h l
    rw [List.mapM_cons, List.exists_mem_cons_iff]
    cases ha : f a with
    | error e' =>
      obtain ⟨rfl, hfail⟩ := (h a e').1 ha
      constructor
      · intro he
        cases he
        exact ⟨rfl, .inl hfail⟩
      · rintro ⟨rfl, -⟩
        rfl
    | ok b =>
      have hkept : ¬ P a := by
        intro hfail
        have := (h a reason).2 ⟨rfl, hfail⟩
        rw [ha] at this
        cases this
      rw [or_iff_right hkept, ← ih]
      cases l.mapM f with
      | error e' => exact Iff.rfl
      | ok out => exact ⟨nofun, nofun⟩

/-- A list fails with the error of its first item that fails. -/
theorem mapM_eq_error_iff_first : ∀ {l : List α} {e : ε}, l.mapM f = .error e ↔
    ∃ before a after, l = before ++ a :: after ∧ (∀ x ∈ before, ∃ b, f x = .ok b) ∧ f a = .error e
  | [], e => by
    constructor
    · intro h
      cases h
    · rintro ⟨before, a, after, h, -⟩
      exact absurd h (by simp)
  | a :: l, e => by
    have ih := @mapM_eq_error_iff_first l e
    rw [List.mapM_cons, bind_eq_error_iff]
    constructor
    · rintro (ha | ⟨b, hb, h⟩)
      · exact ⟨[], a, l, rfl, by simp, ha⟩
      · have hl : l.mapM f = .error e := by
          rcases bind_eq_error_iff.1 h with h | ⟨out, -, h⟩
          · exact h
          · cases h
        obtain ⟨before, a', after, rfl, hbefore, ha'⟩ := ih.1 hl
        have hall : ∀ x ∈ a :: before, ∃ b, f x = .ok b :=
          List.forall_mem_cons.2 ⟨⟨b, hb⟩, hbefore⟩
        exact ⟨a :: before, a', after, rfl, hall, ha'⟩
    · rintro ⟨before, a', after, h, hbefore, ha'⟩
      cases before with
      | nil =>
        obtain ⟨rfl, rfl⟩ := List.cons.inj h
        exact Or.inl ha'
      | cons x before =>
        obtain ⟨rfl, rfl⟩ := List.cons.inj h
        obtain ⟨⟨b, hb⟩, hrest⟩ := List.forall_mem_cons.1 hbefore
        have hl := ih.2 ⟨before, a', after, rfl, hrest, ha'⟩
        exact Or.inr ⟨b, hb, bind_eq_error_iff.2 (Or.inl hl)⟩

/-- What is done to each outcome may be done to all of them in the end. -/
theorem map_mapM {γ : Type} (g : β → γ) : ∀ l : List α,
    (l.mapM f).map (List.map g) = l.mapM fun a => (f a).map g
  | [] => rfl
  | a :: l => by
    rw [List.mapM_cons, List.mapM_cons, ← map_mapM g l]
    cases f a with
    | error e => rfl
    | ok b => cases l.mapM f <;> rfl

/-- If each item succeeds, the list does. -/
theorem exists_mapM_eq_ok : ∀ {l : List α}, (∀ a ∈ l, ∃ b, f a = .ok b) →
    ∃ out, l.mapM f = .ok out
  | [], _ => ⟨[], rfl⟩
  | a :: l, h => by
    obtain ⟨b, hb⟩ := h a (by simp)
    obtain ⟨out, hout⟩ := exists_mapM_eq_ok fun x hx => h x (List.mem_cons_of_mem _ hx)
    rw [mapM_eq_ok_iff] at hout
    exact ⟨b :: out, mapM_eq_ok_iff.2 (.cons hb hout)⟩

/-- Outcomes from which the items can be read off stand for the items in order. -/
theorem map_of_mapM_eq_ok {g : β → α} (hg : ∀ a b, f a = .ok b → g b = a) {l : List α}
    {out : List β} (h : l.mapM f = .ok out) :
    out.map g = l ∧ ∀ b ∈ out, f (g b) = .ok b := by
  have hall : List.Forall₂ (fun b a => g b = a ∧ f a = .ok b) out l := by
    refine (mapM_eq_ok_iff.1 h).flip.imp fun b a hab => ?_
    exact ⟨hg a b hab, hab⟩
  have hmap : List.Forall₂ Eq (out.map g) l :=
    List.forall₂_map_left_iff.2 (hall.imp fun _ _ hab => hab.1)
  rw [List.forall₂_eq_eq_eq] at hmap
  refine ⟨hmap, ?_⟩
  rw [← hmap, List.forall₂_map_right_iff, List.forall₂_same] at hall
  exact fun b hb => (hall b hb).2

/-- Outcomes that are a function of the items are the values of that function. -/
theorem eq_map_of_mapM_eq_ok {g : α → β} (hg : ∀ a b, f a = .ok b → b = g a) {l : List α}
    {out : List β} (h : l.mapM f = .ok out) : out = l.map g := by
  have hmap : List.Forall₂ Eq out (l.map g) :=
    List.forall₂_map_right_iff.2 ((mapM_eq_ok_iff.1 h).flip.imp fun b a hab => hg a b hab)
  rwa [List.forall₂_eq_eq_eq] at hmap

end TokenConformance.Except
