import TokenConformance.Proofs.NaturalOrder.Chunks
import TokenConformance.Proofs.NaturalOrder.Sorted
import TokenConformance.Proofs.Text.Numerals

/-!
# Keys — how texts with readable numbers stand to each other

A text is `Readable` if its only digits are ASCII ones and none of its runs of digits is too long.  Its
key then has the other text and the numbers of its cut in turn (`key_of_cut`), so that any two keys can
be compared.  In what order readable texts stand, and what sorting does with them, is said by
`natural_order_of_readable`.
-/

namespace TokenConformance.Natural

/-! ## Definitions -/

section Defs

/-- All digits of a text are ASCII digits, and as many of them in a row as there are can be read. -/
structure Readable (t : Text) : Prop where
  digits : ∀ c ∈ t, c.isDigitLike = true → c.isDigit = true
  runs : ∀ run, run <:+: t → (∀ c ∈ run, c.isDigit = true) → run.length ≤ Numeral.maxDigits

/-- The number that ASCII digits write in base ten. -/
def runValue (digits : Text) : Nat := Nat.ofDigits 10 (digits.reverse.map fun c => c.val - 0x30)

/-- The key of a text that is cut into other text and pairs of a run and other text. -/
def cutKey (first : Text) (pairs : List (Text × Text)) : List Piece :=
  .text first.lower :: pairs.flatMap fun p => [.number (runValue p.1), .text p.2.lower]

/-- A key has texts at its even positions and numbers at its odd ones, and begins and ends with a text. -/
structure Alternates (k : List Piece) : Prop where
  length : k.length % 2 = 1
  texts : ∀ i p, k[i]? = some p → i % 2 = 0 → ∃ t, p = .text t
  numbers : ∀ i p, k[i]? = some p → i % 2 = 1 → ∃ n, p = .number n

end Defs

/-! ## Comparing keys -/

section Compare

/-- Equal beginnings of keys do not count. -/
theorem compareKeys_append_left (k l m : List Piece) :
    compareKeys (k ++ l) (k ++ m) = compareKeys l m := by
  induction k with
  | nil => rfl
  | cons p k ih =>
    have hself : p.compare p = .eq := Std.ReflCmp.compare_self
    rw [List.cons_append, List.cons_append, compareKeys, hself, ih]
    rfl

theorem comparable_append_left (k l m : List Piece) :
    comparable (k ++ l) (k ++ m) = comparable l m := by
  induction k with
  | nil => rfl
  | cons p k ih => cases p <;> simp [comparable, ih]

end Compare

/-! ## Keys of cuts -/

section CutKey

variable {s t first first' digits : Text} {pairs pairs' : List (Text × Text)}

theorem cutKey_cons (p : Text × Text) :
    cutKey first (p :: pairs) = .text first.lower :: .number (runValue p.1) :: cutKey p.2 pairs := rfl

theorem alternates_cutKey (first : Text) (pairs : List (Text × Text)) :
    Alternates (cutKey first pairs) := by
  induction pairs generalizing first with
  | nil =>
    refine ⟨rfl, fun i p hp _ => ?_, fun i p hp hi => ?_⟩ <;> rcases i with _ | i
    · cases hp
      exact ⟨_, rfl⟩
    · cases hp
    · cases hi
    · cases hp
  | cons q pairs ih =>
    have ih := ih q.2
    rw [cutKey_cons]
    -- the first two positions are known, and the others are those of the rest by an even number
    refine ⟨?_, fun i p hp hi => ?_, fun i p hp hi => ?_⟩
    · have hlength := ih.length
      simp only [List.length_cons]
      omega
    · rcases i with _ | _ | i
      · cases hp
        exact ⟨_, rfl⟩
      · cases hi
      · exact ih.texts i p hp (by omega)
    · rcases i with _ | _ | i
      · cases hi
      · cases hp
        exact ⟨_, rfl⟩
      · exact ih.numbers i p hp (by omega)

theorem comparable_cutKey (first first' : Text) (pairs pairs' : List (Text × Text)) :
    comparable (cutKey first pairs) (cutKey first' pairs') = true := by
  induction pairs generalizing first first' pairs' with
  | nil => cases pairs' <;> simp [cutKey, comparable]
  | cons p pairs ih =>
    cases pairs' with
    | nil => simp [cutKey, comparable]
    | cons p' pairs' => simp [cutKey_cons, comparable, ih]

/-- Keys of cuts tell the other text in small letters and the values of the runs, and nothing else. -/
theorem cutKey_eq_iff : cutKey first pairs = cutKey first' pairs' ↔
    (first :: pairs.map Prod.snd).map Text.lower = (first' :: pairs'.map Prod.snd).map Text.lower ∧
      (pairs.map Prod.fst).map runValue = (pairs'.map Prod.fst).map runValue := by
  induction pairs generalizing first first' pairs' with
  | nil => cases pairs' <;> simp [cutKey]
  | cons p pairs ih =>
    cases pairs' with
    | nil => simp [cutKey]
    | cons p' pairs' =>
      have ih := @ih p.2 p'.2 pairs'
      simp only [List.map_cons, List.cons.injEq] at ih
      simp only [cutKey_cons, List.map_cons, List.cons.injEq, Piece.text.injEq, Piece.number.injEq, ih]
      tauto

/-- A lower number behind the same beginning comes first, whatever follows the numbers. -/
theorem compareKeys_cutKey_of_lt (first : Text) (pairs : List (Text × Text)) {p p' : Text × Text}
    (behind behind' : List (Text × Text)) (h : runValue p.1 < runValue p'.1) :
    compareKeys (cutKey first (pairs ++ p :: behind)) (cutKey first (pairs ++ p' :: behind')) =
      .lt := by
  have hsplit : ∀ p rest, cutKey first (pairs ++ p :: rest) =
      cutKey first pairs ++ .number (runValue p.1) :: cutKey p.2 rest := by
    intro p rest
    simp [cutKey]
  have hnumber : Piece.compare (.number (runValue p.1)) (.number (runValue p'.1)) = .lt :=
    Nat.compare_eq_lt.2 h
  rw [hsplit, hsplit, compareKeys_append_left, compareKeys, hnumber]
  rfl

/-! ## Keys of readable texts -/

theorem pieceOf_of_text (h : t = [] ∨ ∃ c ∈ t, c.isDigitLike = false) :
    pieceOf t = .ok (.text t.lower) := by
  have hdigits : (!t.isEmpty && t.all CodePoint.isDigitLike) = false := by
    obtain rfl | ⟨c, hc, hdigit⟩ := h
    · rfl
    · rw [Bool.and_eq_false_iff]
      exact .inr (List.all_eq_false.2 ⟨c, hc, by rw [hdigit]; nofun⟩)
  rw [pieceOf, hdigits]
  rfl

theorem pieceOf_of_isRun (hdigits : IsRun digits) (hshort : digits.length ≤ Numeral.maxDigits) :
    pieceOf digits = .ok (.number (runValue digits)) := by
  have hlike : (!digits.isEmpty && digits.all CodePoint.isDigitLike) = true := by
    rw [Bool.and_eq_true, Bool.not_eq_true', List.isEmpty_eq_false_iff, List.all_eq_true]
    exact ⟨hdigits.ne_nil, fun c hc => CodePoint.isDigitLike_of_isDigit (hdigits.digits c hc)⟩
  rw [pieceOf, hlike, if_pos rfl, Numeral.decimal_of_isDigit hdigits.digits,
    if_neg (Nat.not_lt.2 hshort), Numeral.ofDigits_eq, runValue, List.map_reverse]
  rfl

theorem Readable.of_infix (h : Readable t) (hs : s <:+: t) : Readable s :=
  ⟨fun c hc => h.digits c (hs.subset hc), fun run hrun => h.runs run (hrun.trans hs)⟩

theorem Readable.pieceOf_of_noDigits (h : Readable t) (ht : NoDigits t) :
    pieceOf t = .ok (.text t.lower) := by
  refine pieceOf_of_text ?_
  cases t with
  | nil => exact .inl rfl
  | cons c t =>
    refine .inr ⟨c, List.mem_cons_self, eq_false_of_ne_true fun hlike => ?_⟩
    have hdigit := h.digits c List.mem_cons_self hlike
    rw [ht c List.mem_cons_self] at hdigit
    cases hdigit

/-- **The key of a readable text** is that of its cut. -/
theorem key_of_cut (h : Readable t) (hcut : Cut t first pairs) :
    key t = .ok (cutKey first pairs) := by
  rw [key, chunks_of_cut hcut]
  induction hcut with
  | last hother =>
    rw [List.flatMap_nil, List.mapM_cons, h.pieceOf_of_noDigits hother]
    rfl
  | @run other digits rest first pairs hother hdigits hrest _ ih =>
    have hothers : other <:+: other ++ (digits ++ rest) := (List.prefix_append _ _).isInfix
    have hrun : digits <:+: other ++ (digits ++ rest) := ⟨other, rest, List.append_assoc _ _ _⟩
    have hbehind : rest <:+: other ++ (digits ++ rest) :=
      ((List.suffix_append _ _).trans (List.suffix_append _ _)).isInfix
    rw [List.flatMap_cons, List.cons_append, List.cons_append, List.nil_append, List.mapM_cons,
      (h.of_infix hothers).pieceOf_of_noDigits hother, List.mapM_cons,
      pieceOf_of_isRun hdigits (h.runs digits hrun hdigits.digits), ih (h.of_infix hbehind)]
    rfl

theorem Readable.exists_key (h : Readable t) :
    ∃ first pairs, Cut t first pairs ∧ key t = .ok (cutKey first pairs) := by
  obtain ⟨first, pairs, hcut⟩ := exists_cut t
  exact ⟨first, pairs, hcut, key_of_cut h hcut⟩

theorem Readable.comparable (hs : Readable s) (ht : Readable t) : Comparable s t := by
  obtain ⟨first, pairs, -, hkey⟩ := hs.exists_key
  obtain ⟨first', pairs', -, hkey'⟩ := ht.exists_key
  exact ⟨_, _, hkey, hkey', comparable_cutKey _ _ _ _⟩

/-- A text without foreign digits is readable if it is not longer than a run may be. -/
theorem readable_of_length_le (h : (t.all fun c => !c.isDigitLike || c.isDigit) = true)
    (hlength : t.length ≤ Numeral.maxDigits) : Readable t := by
  refine ⟨fun c hc hlike => ?_, fun _ hrun _ => hrun.length_le.trans hlength⟩
  simpa [hlike] using List.all_eq_true.1 h c hc

end CutKey

/-! ## The order -/

section Order

open Text (ofString)

theorem precedes_of_lt {shared digits digits' rest rest' : Text} (hshared : NoDigitLast shared)
    (hdigits : IsRun digits) (hdigits' : IsRun digits') (hrest : NoDigitFirst rest)
    (hrest' : NoDigitFirst rest') (hlt : runValue digits < runValue digits')
    (hs : Readable (shared ++ (digits ++ rest))) (ht : Readable (shared ++ (digits' ++ rest'))) :
    Precedes (shared ++ (digits ++ rest)) (shared ++ (digits' ++ rest')) ∧
      ¬ Precedes (shared ++ (digits' ++ rest')) (shared ++ (digits ++ rest)) := by
  obtain ⟨first, pairs, hcut⟩ := exists_cut shared
  obtain ⟨other, behind, hcutRest⟩ := exists_cut rest
  obtain ⟨other', behind', hcutRest'⟩ := exists_cut rest'
  have hkey := key_of_cut hs (hcut.append_run hshared hdigits hrest hcutRest)
  have hkey' := key_of_cut ht (hcut.append_run hshared hdigits' hrest' hcutRest')
  have hbefore : compareKeys (cutKey first (pairs ++ (digits, other) :: behind))
      (cutKey first (pairs ++ (digits', other') :: behind')) = .lt :=
    compareKeys_cutKey_of_lt first pairs behind behind' hlt
  rw [precedes_iff_of_key hkey hkey', precedes_iff_of_key hkey' hkey,
    compareKeys_swap (cutKey first (pairs ++ (digits', _) :: _)), hbefore]
  decide

theorem Readable.precedes_or_precedes {s t : Text} (hs : Readable s) (ht : Readable t) :
    Precedes s t ∨ Precedes t s := by
  obtain ⟨first, pairs, -, hkey⟩ := hs.exists_key
  obtain ⟨first', pairs', -, hkey'⟩ := ht.exists_key
  rw [precedes_iff_of_key hkey hkey', precedes_iff_of_key hkey' hkey, ← Bool.or_eq_true]
  exact isLE_compareKeys_total _ _

/-- Sorting items with readable names succeeds, and comes out the same for every order of the items if
their keys differ. -/
theorem exists_sortBy_of_readable {α : Type} (name : α → Text) {items : List α}
    (h : ∀ a ∈ items, Readable (name a)) :
    ∃ sorted, sortBy name items = .ok sorted ∧ SortedBy name items sorted ∧
      ((items.map fun a => key (name a)).Nodup →
        ∀ items', items.Perm items' → sortBy name items' = .ok sorted) := by
  have hsorts : ∀ {items' : List α}, items.Perm items' →
      ∃ sorted, sortBy name items' = .ok sorted := fun hperm =>
    exists_sortBy fun a ha b hb =>
      (h a (hperm.symm.subset ha)).comparable (h b (hperm.symm.subset hb))
  obtain ⟨sorted, hsorted⟩ := hsorts (List.Perm.refl items)
  refine ⟨sorted, hsorted, sorted_of_sortBy hsorted, fun hkeys items' hperm => ?_⟩
  obtain ⟨sorted', hsorted'⟩ := hsorts hperm
  rw [hsorted', eq_of_sortedBy hperm hkeys (sorted_of_sortBy hsorted) (sorted_of_sortBy hsorted')]

/-- **The natural order of readable texts.** -/
theorem natural_order_of_readable :
    -- a key has the other text and the numbers of the cut in turn, so that any two can be compared
    (∀ t, Readable t → ∃ first pairs, Cut t first pairs ∧ key t = .ok (cutKey first pairs) ∧
      Alternates (cutKey first pairs)) ∧
    (∀ s t, Readable s → Readable t → Comparable s t) ∧
    -- the order is total and transitive
    (∀ s t, Readable s → Readable t → Precedes s t ∨ Precedes t s) ∧
    (∀ s t u, Precedes s t → Precedes t u → Precedes s u) ∧
    -- keys are equal where small letters and the values of runs are
    (∀ s t first first' pairs pairs', Readable s → Readable t → Cut s first pairs →
      Cut t first' pairs' → (key s = key t ↔
        (first :: pairs.map Prod.snd).map Text.lower =
            (first' :: pairs'.map Prod.snd).map Text.lower ∧
          (pairs.map Prod.fst).map runValue = (pairs'.map Prod.fst).map runValue)) ∧
    -- a lower number comes first
    (∀ shared digits digits' rest rest', NoDigitLast shared → IsRun digits → IsRun digits' →
      NoDigitFirst rest → NoDigitFirst rest' → runValue digits < runValue digits' →
      Readable (shared ++ (digits ++ rest)) → Readable (shared ++ (digits' ++ rest')) →
        Precedes (shared ++ (digits ++ rest)) (shared ++ (digits' ++ rest')) ∧
          ¬ Precedes (shared ++ (digits' ++ rest')) (shared ++ (digits ++ rest))) ∧
    -- sorting succeeds, keeps ties in order, and without ties gives one result for all orders
    ∀ (α : Type) (name : α → Text) (items : List α), (∀ a ∈ items, Readable (name a)) →
      ∃ sorted, sortBy name items = .ok sorted ∧ SortedBy name items sorted ∧
        ((items.map fun a => key (name a)).Nodup →
          ∀ items', items.Perm items' → sortBy name items' = .ok sorted) := by
  refine ⟨fun t ht => ?_, fun s t hs ht => hs.comparable ht,
    fun s t hs ht => hs.precedes_or_precedes ht, fun s t u hst htu => hst.trans htu,
    fun s t first first' pairs pairs' hs ht hcut hcut' => ?_,
    fun shared digits digits' rest rest' => precedes_of_lt,
    fun α name items hitems => exists_sortBy_of_readable name hitems⟩
  · obtain ⟨first, pairs, hcut, hkey⟩ := ht.exists_key
    exact ⟨first, pairs, hcut, hkey, alternates_cutKey first pairs⟩
  · rw [key_of_cut hs hcut, key_of_cut ht hcut', Except.ok.injEq]
    exact cutKey_eq_iff

/-- Neither zeros in front of a number nor capital letters make a difference, and a number with fewer
digits comes first. -/
theorem natural_order_of_readable_names :
    key (ofString "Z023.test") = key (ofString "z23.TEST") ∧
      Precedes (ofString "z9b") (ofString "z23a") ∧ ¬ Precedes (ofString "z23a") (ofString "z9b") := by
  have hreadable : ∀ t : Text, (t.all fun c => !c.isDigitLike || c.isDigit) = true →
      t.length ≤ 20 → Readable t := fun t h hlength =>
    readable_of_length_le h (hlength.trans (by decide))
  have hcut : ∀ other digits rest : Text, NoDigits other → IsRun digits → NoDigits rest →
      Cut (other ++ (digits ++ rest)) other [(digits, rest)] :=
    fun other digits rest hother hdigits hrest =>
      .run hother hdigits (fun c hc => hrest c (List.mem_of_mem_head? hc)) (.last hrest)
  have hcutZ := hcut (ofString "Z") (ofString "023") (ofString ".test") (by decide) (by decide)
    (by decide)
  have hcutz := hcut (ofString "z") (ofString "23") (ofString ".TEST") (by decide) (by decide)
    (by decide)
  obtain ⟨-, -, -, -, hkeys, hnumbers, -⟩ := natural_order_of_readable
  refine ⟨(hkeys _ _ _ _ _ _ (hreadable _ (by decide +kernel) (by decide))
    (hreadable _ (by decide +kernel) (by decide)) hcutZ hcutz).2 (by decide +kernel), ?_⟩
  exact hnumbers (ofString "z") (ofString "9") (ofString "23") (ofString "b") (ofString "a")
    (by decide) (by decide) (by decide) (by decide) (by decide) (by decide)
    (hreadable _ (by decide +kernel) (by decide)) (hreadable _ (by decide +kernel) (by decide))

end Order

end TokenConformance.Natural
