import Mathlib.Data.List.TakeWhile
import TokenConformance.NaturalOrder

/-!
# Cuts — a text as other text and runs of digits in turn

`Cut` says what it means that a text is cut at its runs of digits: no piece of other text holds a digit,
and a run goes on as far as there are digits.  Every text can be cut (`exists_cut`), and cutting it gives
the pieces of its cut (`chunks_of_cut`).  A code point that is no digit joins what stands in front of it to
the first piece behind it, and leaves all other pieces as they are (`exists_chunks_append`).
-/

namespace TokenConformance.Natural

/-! ## Definitions -/

section Defs

/-- A text holds no digit. -/
def NoDigits (t : Text) : Prop := ∀ c ∈ t, c.isDigit = false

/-- A text does not begin with a digit. -/
def NoDigitFirst (t : Text) : Prop := ∀ c ∈ t.head?, c.isDigit = false

/-- A text does not end with a digit. -/
def NoDigitLast (t : Text) : Prop := ∀ c ∈ t.getLast?, c.isDigit = false

/-- A text consists of digits, of which there is at least one. -/
structure IsRun (t : Text) : Prop where
  ne_nil : t ≠ []
  digits : ∀ c ∈ t, c.isDigit = true

-- decided along the text, since an instance for all code points would try them one after another
instance (t : Text) : Decidable (NoDigits t) :=
  decidable_of_iff (t.all (! ·.isDigit) = true) (by simp [NoDigits])

instance (t : Text) : Decidable (NoDigitFirst t) :=
  decidable_of_iff (t.head?.all (! ·.isDigit) = true) (by simp [NoDigitFirst, Option.all_eq_true])

instance (t : Text) : Decidable (NoDigitLast t) :=
  decidable_of_iff (t.getLast?.all (! ·.isDigit) = true) (by simp [NoDigitLast, Option.all_eq_true])

instance (t : Text) : Decidable (IsRun t) :=
  decidable_of_iff (t ≠ [] ∧ t.all CodePoint.isDigit = true)
    ⟨fun h => ⟨h.1, List.all_eq_true.1 h.2⟩, fun h => ⟨h.1, List.all_eq_true.2 h.2⟩⟩

/-- A text is cut into the other text that it begins with, and each of its runs of digits beside the
other text behind it.  A run ends only where no digit follows. -/
inductive Cut : Text → Text → List (Text × Text) → Prop
  | last {other : Text} (hother : NoDigits other) : Cut other other []
  | run {other digits rest first : Text} {pairs : List (Text × Text)} (hother : NoDigits other)
      (hdigits : IsRun digits) (hrest : NoDigitFirst rest) (hcut : Cut rest first pairs) :
      Cut (other ++ (digits ++ rest)) other ((digits, first) :: pairs)

end Defs

/-! ## Cutting -/

section Chunks

variable {c : CodePoint} {s t other digits rest first : Text} {others : List Text}
  {pairs pairs' : List (Text × Text)}

theorem chunks_cons_of_not_isDigit (hc : c.isDigit = false) (h : chunks t = first :: others) :
    chunks (c :: t) = (c :: first) :: others := by
  rw [chunks, h]
  cases first <;> cases others <;> simp [hc]

theorem chunks_cons_of_isDigit (hc : c.isDigit = true) (h : chunks t = [] :: digits :: others) :
    chunks (c :: t) = [] :: (c :: digits) :: others := by
  rw [chunks, h]
  simp [hc]

/-- A text whose first piece of other text is empty has none or begins with a digit. -/
theorem chunks_ne_of_noDigitFirst (ht : NoDigitFirst t) : chunks t ≠ [] :: digits :: others := by
  cases t with
  | nil => exact fun h => by cases h
  | cons d t =>
    have hd : d.isDigit = false := ht d rfl
    intro h
    rw [chunks] at h
    split at h <;> simp [hd] at h

theorem chunks_cons_of_noDigitFirst (hc : c.isDigit = true) (ht : NoDigitFirst t)
    (h : chunks t = first :: others) : chunks (c :: t) = [] :: [c] :: first :: others := by
  rw [chunks]
  split
  · rename_i hchunks
    exact absurd hchunks (chunks_ne_of_noDigitFirst ht)
  · rename_i hchunks
    rw [h] at hchunks
    cases hchunks
    simp [hc]
  · rename_i hchunks
    rw [h] at hchunks
    cases hchunks

theorem chunks_append_of_noDigits (h : chunks t = first :: others) :
    ∀ {other : Text}, NoDigits other → chunks (other ++ t) = (other ++ first) :: others
  | [], _ => h
  | c :: other, hother => by
    have hrest : NoDigits other := fun d hd => hother d (List.mem_cons_of_mem _ hd)
    exact chunks_cons_of_not_isDigit (hother c List.mem_cons_self)
      (chunks_append_of_noDigits h hrest)

theorem chunks_append_of_isRun (ht : NoDigitFirst t) (h : chunks t = first :: others) :
    ∀ {digits : Text}, IsRun digits → chunks (digits ++ t) = [] :: digits :: first :: others
  | [], hdigits => absurd rfl hdigits.ne_nil
  | [c], hdigits => chunks_cons_of_noDigitFirst (hdigits.digits c List.mem_cons_self) ht h
  | c :: d :: digits, hdigits => by
    have hrest : IsRun (d :: digits) :=
      ⟨List.cons_ne_nil _ _, fun e he => hdigits.digits e (List.mem_cons_of_mem _ he)⟩
    exact chunks_cons_of_isDigit (hdigits.digits c List.mem_cons_self)
      (chunks_append_of_isRun ht h hrest)

/-- **Cutting a text gives the pieces of its cut.** -/
theorem chunks_of_cut (h : Cut t first pairs) :
    chunks t = first :: pairs.flatMap fun p => [p.1, p.2] := by
  induction h with
  | @last other hother =>
    have hnil := chunks_append_of_noDigits (t := []) rfl hother
    rwa [List.append_nil] at hnil
  | run hother hdigits hrest _ ih =>
    rw [chunks_append_of_noDigits (chunks_append_of_isRun hrest ih hdigits) hother, List.append_nil]
    rfl

/-- A text that begins with a digit is cut there. -/
theorem Cut.exists_run (h : Cut t first pairs) (ht : ¬ NoDigitFirst t) :
    ∃ digits rest first' pairs', t = digits ++ rest ∧ IsRun digits ∧ NoDigitFirst rest ∧
      Cut rest first' pairs' := by
  cases h with
  | last hother =>
    refine absurd (fun c hc => hother c ?_) ht
    exact List.mem_of_mem_head? hc
  | @run _ digits rest first' pairs' hother hdigits hrest hcut =>
    cases first with
    | nil => exact ⟨digits, rest, first', pairs', rfl, hdigits, hrest, hcut⟩
    | cons c other =>
      refine absurd (fun d hd => ?_) ht
      cases hd
      exact hother c List.mem_cons_self

/-- **Every text can be cut.** -/
theorem exists_cut : ∀ t : Text, ∃ first pairs, Cut t first pairs
  | [] => ⟨[], [], .last fun _ h => absurd h List.not_mem_nil⟩
  | c :: t => by
    have hnil : NoDigits [] := fun _ h => absurd h List.not_mem_nil
    obtain ⟨first, pairs, hcut⟩ := exists_cut t
    by_cases hc : c.isDigit = true
    · by_cases ht : NoDigitFirst t
      · have hrun : IsRun [c] := ⟨List.cons_ne_nil _ _, by simpa using hc⟩
        exact ⟨[], _, .run hnil hrun ht hcut⟩
      · -- the run that the rest begins with gets longer by one digit
        obtain ⟨digits, rest, first', pairs', rfl, hdigits, hrest, hcut'⟩ := hcut.exists_run ht
        have hrun : IsRun (c :: digits) :=
          ⟨List.cons_ne_nil _ _, List.forall_mem_cons.2 ⟨hc, hdigits.digits⟩⟩
        exact ⟨[], _, .run hnil hrun hrest hcut'⟩
    · have hc : c.isDigit = false := eq_false_of_ne_true hc
      cases hcut with
      | last hother => exact ⟨c :: t, [], .last (List.forall_mem_cons.2 ⟨hc, hother⟩)⟩
      | run hother hdigits hrest hcut' =>
        exact ⟨_, _, .run (List.forall_mem_cons.2 ⟨hc, hother⟩) hdigits hrest hcut'⟩

/-! ## Cuts of parts -/

/-- A text that does not end with a digit is cut on its own if a run follows it. -/
theorem Cut.append_run {first' : Text} (h : Cut s first pairs) (hs : NoDigitLast s)
    (hdigits : IsRun digits) (hrest : NoDigitFirst rest) (hcut : Cut rest first' pairs') :
    Cut (s ++ (digits ++ rest)) first (pairs ++ (digits, first') :: pairs') := by
  induction h with
  | last hother => exact .run hother hdigits hrest hcut
  | @run other run between first₁ pairs₁ hother hrun hbetween _ ih =>
    have hne : between ≠ [] := by
      -- otherwise the text would end with the last digit of the run
      rintro rfl
      obtain hnil | ⟨init, c, rfl⟩ := List.eq_nil_or_concat run
      · exact hrun.ne_nil hnil
      · have hdigit := hrun.digits c (by simp)
        rw [hs c (by simp)] at hdigit
        cases hdigit
    have hlast : NoDigitLast between := fun c hc => hs c (by
      rw [List.getLast?_append, List.getLast?_append, hc]
      rfl)
    have hfirst : NoDigitFirst (between ++ (digits ++ rest)) := fun c hc => hbetween c (by
      rwa [List.head?_append, Option.or_of_isSome (List.isSome_head?.2 hne)] at hc)
    rw [List.append_assoc, List.append_assoc]
    exact .run hother hrun hfirst (ih hlast)

/-- What stands in front of a code point that is no digit changes the pieces of the text behind it only in
that the first of them is prolonged. -/
theorem exists_chunks_append (s : Text) : ∃ init last, ∀ {c : CodePoint} {t first : Text}
    {others : List Text}, c.isDigit = false → chunks t = first :: others →
      chunks (s ++ c :: t) = init ++ (last ++ c :: first) :: others := by
  obtain ⟨first, pairs, hcut⟩ := exists_cut s
  induction hcut with
  | @last other hother =>
    exact ⟨[], other, fun hc h => chunks_append_of_noDigits (chunks_cons_of_not_isDigit hc h) hother⟩
  | @run other digits rest first pairs hother hdigits hrest _ ih =>
    obtain ⟨init, last, hchunks⟩ := ih
    refine ⟨other :: digits :: init, last, fun {c t first' others} hc h => ?_⟩
    have hnext : NoDigitFirst (rest ++ c :: t) := by
      cases rest with
      | nil => exact fun d hd => by cases hd; exact hc
      | cons d rest => exact hrest
    have hbehind := hchunks hc h
    obtain ⟨piece, pieces, hpieces⟩ : ∃ piece pieces,
        init ++ (last ++ c :: first') :: others = piece :: pieces :=
      List.exists_cons_of_ne_nil (by simp)
    rw [hpieces] at hbehind
    rw [List.append_assoc, List.append_assoc,
      chunks_append_of_noDigits (chunks_append_of_isRun hnext hbehind hdigits) hother, List.append_nil,
      ← hpieces]
    rfl

/-- The first piece of a text is what stands in front of its first digit. -/
theorem takeWhile_of_cut (h : Cut t first pairs) : t.takeWhile (! ·.isDigit) = first := by
  have hother : ∀ {other : Text}, NoDigits other → ∀ c ∈ other, (!c.isDigit) = true :=
    fun hother c hc => by rw [hother c hc]; rfl
  cases h with
  | last hnone => exact List.takeWhile_eq_self_iff.2 (hother hnone)
  | run hnone hdigits hrest hcut =>
    obtain ⟨d, digits, rfl⟩ := List.exists_cons_of_ne_nil hdigits.ne_nil
    rw [List.takeWhile_append_of_pos (hother hnone), List.cons_append, List.takeWhile_cons_of_neg,
      List.append_nil]
    rw [hdigits.digits d List.mem_cons_self]
    nofun

end Chunks

end TokenConformance.Natural
