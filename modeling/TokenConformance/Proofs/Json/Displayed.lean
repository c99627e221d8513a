import TokenConformance.Json.Display
import TokenConformance.Proofs.Text.Quoted

/-!
# Displayed values — values without numbers can be told apart

Where a value without numbers ends is seen from its own display, and so is what it is
(`NumberFree.toldApart`); two numbers side by side would look like one.  The display of such a value is
one line (`NumberFree.newline_notMem`), and it says by its first code point of which kind the value is
(`NumberFree.exists_displayWith`).
-/

namespace TokenConformance.Json

open Text (ofString ToldApart OpensApart)

variable {printable : CodePoint → Bool} {v w : Json}

/-! ## Definitions -/

section Defs

/-- A value in which no number stands. -/
inductive NumberFree : Json → Prop
  | null : NumberFree .null
  | bool (b : Bool) : NumberFree (.bool b)
  | str (t : Text) : NumberFree (.str t)
  | arr {items : List Json} (h : ∀ v ∈ items, NumberFree v) : NumberFree (.arr items)
  | obj {members : List (Text × Json)} (h : ∀ p ∈ members, NumberFree p.2) :
      NumberFree (.obj members)

/-- A member of an object as messages show it. -/
def displayMember (printable : CodePoint → Bool) (p : Text × Json) : Text :=
  p.1.quoteWith printable ++ ofString ": " ++ p.2.displayWith printable

/-- The kind of the values whose display begins with a code point, numbers aside. -/
def openedBy? (c : CodePoint) : Option String :=
  if c = 'N' then some "NoneType"
  else if c = 'T' ∨ c = 'F' then some "bool"
  else if Text.IsMark c then some "str"
  else if c = '[' then some "list"
  else if c = '\x7b' then some "dict"
  else none

end Defs

/-! ## Items and members -/

section Parts

theorem displayItems_eq_map : ∀ items : List Json,
    displayItems printable items = items.map (displayWith printable)
  | [] => rfl
  | v :: items => by rw [displayItems, displayItems_eq_map items, List.map_cons]

theorem displayMembers_eq_map : ∀ members : List (Text × Json),
    displayMembers printable members = members.map (displayMember printable)
  | [] => rfl
  | (key, v) :: members => by
    rw [displayMembers, displayMembers_eq_map members, List.map_cons, displayMember]

theorem displayWith_arr (items : List Json) :
    displayWith printable (.arr items) =
      ofString "[" ++ (Text.join (ofString ", ") (items.map (displayWith printable)) ++
        [CodePoint.ofChar ']']) := by
  rw [displayWith, displayItems_eq_map, List.append_assoc]
  rfl

theorem displayWith_obj (members : List (Text × Json)) :
    displayWith printable (.obj members) =
      ofString "\x7b" ++ (Text.join (ofString ", ") (members.map (displayMember printable)) ++
        [CodePoint.ofChar '\x7d']) := by
  rw [displayWith, displayMembers_eq_map, List.append_assoc]
  rfl

theorem toldApart_displayMember {p : Text × Json}
    (h : ToldApart (displayWith printable) NumberFree p.2) :
    ToldApart (displayMember printable) (fun p => NumberFree p.2) p := by
  intro q hq s t heq
  simp only [displayMember, List.append_assoc] at heq
  obtain ⟨hkey, heq⟩ := Text.toldApart_quoteWith printable p.1 q.1 trivial _ _ heq
  rw [List.append_cancel_left_eq] at heq
  obtain ⟨hvalue, hrest⟩ := h q.2 hq s t heq
  exact ⟨Prod.ext hkey hvalue, hrest⟩

end Parts

/-! ## What a display begins with -/

section Opening

theorem openedBy?_quoteMark (t : Text) : openedBy? t.quoteMark = some "str" := by
  obtain h | h := Text.isMark_quoteMark t <;> rw [h] <;> decide

theorem NumberFree.exists_displayWith (h : NumberFree v) (printable : CodePoint → Bool) :
    ∃ c rest, v.displayWith printable = c :: rest ∧ openedBy? c = some v.typeName := by
  cases h with
  | null => exact ⟨CodePoint.ofChar 'N', _, rfl, rfl⟩
  | bool b =>
    cases b
    · exact ⟨CodePoint.ofChar 'F', _, rfl, rfl⟩
    · exact ⟨CodePoint.ofChar 'T', _, rfl, rfl⟩
  | str t => exact ⟨t.quoteMark, _, rfl, openedBy?_quoteMark t⟩
  | arr _ => exact ⟨CodePoint.ofChar '[', _, displayWith_arr _, rfl⟩
  | obj _ => exact ⟨CodePoint.ofChar '\x7b', _, displayWith_obj _, rfl⟩

theorem NumberFree.opensApart {close : CodePoint} (hclose : openedBy? close = none)
    (h : NumberFree v) : OpensApart (displayWith printable) close v := by
  intro s t heq
  obtain ⟨c, rest, hdisplay, hopen⟩ := h.exists_displayWith printable
  rw [hdisplay, List.cons_append, List.cons_eq_cons] at heq
  rw [heq.1, hclose] at hopen
  cases hopen

theorem opensApart_displayMember {close : CodePoint} (hclose : openedBy? close = none)
    (p : Text × Json) : OpensApart (displayMember printable) close p := by
  intro s t heq
  simp only [displayMember, Text.quoteWith, List.cons_append, List.cons_eq_cons] at heq
  rw [← heq.1, openedBy?_quoteMark] at hclose
  cases hclose

/-- Values whose displays begin the same text are of one kind. -/
theorem typeName_eq_of_displayWith_append (hv : NumberFree v) (hw : NumberFree w) {s t : Text}
    (heq : v.displayWith printable ++ s = w.displayWith printable ++ t) :
    v.typeName = w.typeName := by
  obtain ⟨c, rest, hdisplay, hc⟩ := hv.exists_displayWith printable
  obtain ⟨d, rest', hdisplay', hd⟩ := hw.exists_displayWith printable
  rw [hdisplay, hdisplay', List.cons_append, List.cons_append, List.cons_eq_cons] at heq
  rw [heq.1, hd] at hc
  exact (Option.some.inj hc).symm

end Opening

/-! ## The display as a whole -/

/-- **Values without numbers are told apart** by their displays, whatever is printable. -/
theorem NumberFree.toldApart (printable : CodePoint → Bool) (h : NumberFree v) :
    ToldApart (displayWith printable) NumberFree v := by
  induction h with
  | null =>
    intro w hw s t heq
    have htype := typeName_eq_of_displayWith_append .null hw heq
    cases hw with
    | null => exact ⟨rfl, List.append_cancel_left heq⟩
    | _ => exact absurd htype (by simp [typeName])
  | bool b =>
    intro w hw s t heq
    have htype := typeName_eq_of_displayWith_append (.bool b) hw heq
    cases hw with
    | bool b' =>
      -- the two words differ in their first letters
      cases b <;> cases b'
      · exact ⟨rfl, List.append_cancel_left heq⟩
      · exact absurd (congrArg List.head? heq) (by simp [displayWith, ofString]; decide)
      · exact absurd (congrArg List.head? heq) (by simp [displayWith, ofString]; decide)
      · exact ⟨rfl, List.append_cancel_left heq⟩
    | _ => exact absurd htype (by simp [typeName])
  | str u =>
    intro w hw s t heq
    have htype := typeName_eq_of_displayWith_append (.str u) hw heq
    cases hw with
    | str u' =>
      obtain ⟨rfl, hrest⟩ := Text.toldApart_quoteWith printable u u' trivial s t heq
      exact ⟨rfl, hrest⟩
    | _ => exact absurd htype (by simp [typeName])
  | arr hitems ih =>
    intro w hw s t heq
    have htype := typeName_eq_of_displayWith_append (.arr hitems) hw heq
    cases hw with
    | arr hitems' =>
      have hclose : openedBy? ']' = none := by decide
      rw [displayWith_arr, displayWith_arr] at heq
      obtain ⟨rfl, hrest⟩ := (ToldApart.join (by decide) hitems ih
        fun v hv => hv.opensApart hclose).prepend (ofString "[") _ hitems' s t heq
      exact ⟨rfl, hrest⟩
    | _ => exact absurd htype (by simp [typeName])
  | obj hmembers ih =>
    intro w hw s t heq
    have htype := typeName_eq_of_displayWith_append (.obj hmembers) hw heq
    cases hw with
    | obj hmembers' =>
      have hclose : openedBy? '\x7d' = none := by decide
      rw [displayWith_obj, displayWith_obj] at heq
      obtain ⟨rfl, hrest⟩ := (ToldApart.join (by decide) hmembers
        (fun p hp => toldApart_displayMember (ih p hp))
        fun p _ => opensApart_displayMember hclose p).prepend (ofString "\x7b") _ hmembers' s t heq
      exact ⟨rfl, hrest⟩
    | _ => exact absurd htype (by simp [typeName])

theorem NumberFree.newline_notMem (h : NumberFree v) :
    CodePoint.ofChar '\n' ∉ v.displayWith printable := by
  have hsep : CodePoint.ofChar '\n' ∉ ofString ", " := by decide
  induction h with
  | null =>
    rw [displayWith]
    decide
  | bool b =>
    rw [displayWith]
    cases b <;> decide
  | str t => exact Text.newline_notMem_quoteWith printable t
  | arr _ ih =>
    rw [displayWith_arr, List.mem_append, List.mem_append, not_or, not_or]
    refine ⟨by decide, Text.notMem_join hsep fun line hline => ?_, by decide⟩
    obtain ⟨v, hv, rfl⟩ := List.mem_map.1 hline
    exact ih v hv
  | obj _ ih =>
    rw [displayWith_obj, List.mem_append, List.mem_append, not_or, not_or]
    refine ⟨by decide, Text.notMem_join hsep fun line hline => ?_, by decide⟩
    obtain ⟨p, hp, rfl⟩ := List.mem_map.1 hline
    rw [displayMember, List.mem_append, List.mem_append, not_or, not_or]
    exact ⟨⟨Text.newline_notMem_quoteWith printable p.1, by decide⟩, ih p hp⟩

end TokenConformance.Json
