import TokenConformance.Proofs.NaturalOrder.Keys
import TokenConformance.Proofs.Text.Lowering

/-!
# Names in a directory — the order of paths is that of their ends

In front of a name stands the path of its directory, which is nothing or ends with a slash (`Leads`).
It takes no part in the order: names that can be compared behind it can be compared without it, and come
in the same order (`Comparable.of_leads`, `Precedes.of_leads`).  Names that begin with digits of other
scripts (`BeginsForeign`) are left out, since their digits are read as a number once nothing stands in
front of them.
-/

namespace TokenConformance

theorem Text.compare_append_left (s t u : Text) :
    Text.compare (s ++ t) (s ++ u) = Text.compare t u := by
  induction s with
  | nil => rfl
  | cons c s ih =>
    have hself : Ord.compare c.val c.val = .eq := Std.ReflCmp.compare_self
    rw [List.cons_append, List.cons_append, Text.compare, hself, ih]
    rfl

namespace Natural

/-! ## Definitions -/

section Defs

/-- What stands in front of names in a directory: nothing, or a path and a slash. -/
def Leads (path : Text) : Prop := path = [] ∨ ∃ p, path = p ++ [CodePoint.ofChar '/']

/-- Up to its first ASCII digit a text has digits of other scripts, and nothing but those. -/
def BeginsForeign (t : Text) : Prop :=
  t.takeWhile (! ·.isDigit) ≠ [] ∧ (t.takeWhile (! ·.isDigit)).all CodePoint.isDigitLike = true

instance (t : Text) : Decidable (BeginsForeign t) := inferInstanceAs (Decidable (_ ∧ _))

end Defs

/-! ## Keys -/

section Keys

variable {s t first path : Text} {others : List Text} {k : List Piece}

theorem takeWhile_of_chunks (h : chunks t = first :: others) :
    t.takeWhile (! ·.isDigit) = first := by
  obtain ⟨first', pairs, hcut⟩ := exists_cut t
  rw [chunks_of_cut hcut] at h
  cases h
  exact takeWhile_of_cut hcut

theorem exists_chunks (t : Text) : ∃ first others, chunks t = first :: others := by
  obtain ⟨first, pairs, hcut⟩ := exists_cut t
  exact ⟨_, _, chunks_of_cut hcut⟩

theorem Readable.not_beginsForeign (h : Readable t) : ¬ BeginsForeign t := by
  rintro ⟨hne, hlike⟩
  obtain ⟨c, rest, hleading⟩ := List.exists_cons_of_ne_nil hne
  have hc : c ∈ t.takeWhile (! ·.isDigit) := hleading ▸ List.mem_cons_self
  have hdigit := h.digits c ((List.takeWhile_prefix _).subset hc) (List.all_eq_true.1 hlike c hc)
  have hall : (t.takeWhile (! ·.isDigit)).all (! ·.isDigit) = true := List.all_takeWhile
  have hnone := List.all_eq_true.1 hall c hc
  rw [hdigit] at hnone
  cases hnone

/-- The first piece of a text is a text, unless it consists of foreign digits. -/
theorem key_eq_ok_iff (h : chunks t = first :: others) (ht : ¬ BeginsForeign t) :
    key t = .ok k ↔ ∃ rest, others.mapM pieceOf = .ok rest ∧ k = .text first.lower :: rest := by
  have hfirst : pieceOf first = .ok (.text first.lower) := by
    rw [BeginsForeign, takeWhile_of_chunks h] at ht
    refine pieceOf_of_text ?_
    by_cases hnil : first = []
    · exact .inl hnil
    · simpa [hnil] using ht
  rw [key, h, List.mapM_cons, hfirst, Except.bind_eq_ok_iff]
  constructor
  · rintro ⟨p, hp, hk⟩
    cases hp
    obtain ⟨rest, hrest, hk⟩ := Except.bind_eq_ok_iff.1 hk
    cases hk
    exact ⟨rest, hrest, rfl⟩
  · rintro ⟨rest, hrest, rfl⟩
    exact ⟨_, rfl, Except.bind_eq_ok_iff.2 ⟨rest, hrest, rfl⟩⟩

theorem exists_key_behind (path : Text) : ∃ (init : List Text) (opening : Text),
    ∀ {t first : Text} {others : List Text} {k : List Piece}, chunks t = first :: others →
      (key (path ++ CodePoint.ofChar '/' :: t) = .ok k ↔ ∃ before rest,
        init.mapM pieceOf = .ok before ∧ others.mapM pieceOf = .ok rest ∧
          k = before ++ .text (opening ++ first.lower) :: rest) := by
  obtain ⟨init, last, hchunks⟩ := exists_chunks_append path
  refine ⟨init, Text.lower (last ++ [CodePoint.ofChar '/']), fun {t first others k} h => ?_⟩
  -- the piece with the slash is a text, whatever the name begins with
  have hpiece : pieceOf (last ++ CodePoint.ofChar '/' :: first) =
      .ok (.text (Text.lower (last ++ [CodePoint.ofChar '/']) ++ first.lower)) := by
    rw [← Text.lower_append_break CodePoint.endsWords_slash]
    exact pieceOf_of_text (.inr ⟨CodePoint.ofChar '/', by simp, by decide +kernel⟩)
  rw [key, hchunks (by decide) h]
  simp only [List.mapM_append, List.mapM_cons, hpiece, Except.bind_eq_ok_iff]
  constructor
  · rintro ⟨before, hbefore, behind, ⟨p, hp, rest, hrest, hbehind⟩, hk⟩
    cases hp
    cases hbehind
    cases hk
    exact ⟨before, rest, hbefore, hrest, rfl⟩
  · rintro ⟨before, rest, hbefore, hrest, rfl⟩
    exact ⟨before, hbefore, _, ⟨_, rfl, rest, hrest, rfl⟩, rfl⟩

end Keys

/-! ## Order -/

section Order

variable {s t a b path : Text} {k l rest rest' : List Piece}

theorem compareKeys_text_append (opening : Text) :
    compareKeys (.text (opening ++ a) :: rest) (.text (opening ++ b) :: rest') =
      compareKeys (.text a :: rest) (.text b :: rest') := by
  rw [compareKeys, compareKeys, Piece.compare, Piece.compare, Text.compare_append_left]

theorem comparable_text_append (opening : Text) :
    comparable (.text (opening ++ a) :: rest) (.text (opening ++ b) :: rest') =
      comparable (.text a :: rest) (.text b :: rest') := by
  have hne : (opening ++ a != opening ++ b) = (a != b) := by
    rw [Bool.eq_iff_iff, bne_iff_ne, bne_iff_ne, Ne, List.append_cancel_left_eq]
  rw [comparable, comparable, hne]

/-- The keys of two names stand to each other as those of their paths do. -/
theorem exists_keys_of_leads (hpath : Leads path) (hs : ¬ BeginsForeign s) (ht : ¬ BeginsForeign t)
    (hk : key (path ++ s) = .ok k) (hl : key (path ++ t) = .ok l) :
    ∃ k' l', key s = .ok k' ∧ key t = .ok l' ∧ compareKeys k l = compareKeys k' l' ∧
      comparable k l = comparable k' l' := by
  obtain rfl | ⟨p, rfl⟩ := hpath
  · exact ⟨k, l, hk, hl, rfl, rfl⟩
  · rw [List.append_assoc, List.singleton_append] at hk hl
    obtain ⟨first, others, hchunks⟩ := exists_chunks s
    obtain ⟨first', others', hchunks'⟩ := exists_chunks t
    obtain ⟨init, opening, hkey⟩ := exists_key_behind p
    obtain ⟨before, rest, hbefore, hrest, rfl⟩ := (hkey hchunks).1 hk
    obtain ⟨before', rest', hbefore', hrest', rfl⟩ := (hkey hchunks').1 hl
    cases hbefore.symm.trans hbefore'
    refine ⟨_, _, (key_eq_ok_iff hchunks hs).2 ⟨rest, hrest, rfl⟩,
      (key_eq_ok_iff hchunks' ht).2 ⟨rest', hrest', rfl⟩, ?_, ?_⟩
    · rw [compareKeys_append_left, compareKeys_text_append]
    · rw [comparable_append_left, comparable_text_append]

/-- **Names that can be compared behind a path can be compared by themselves.** -/
theorem Comparable.of_leads (h : Comparable (path ++ s) (path ++ t)) (hpath : Leads path)
    (hs : ¬ BeginsForeign s) (ht : ¬ BeginsForeign t) : Comparable s t := by
  obtain ⟨k, l, hk, hl, hkl⟩ := h
  obtain ⟨k', l', hk', hl', -, hcomparable⟩ := exists_keys_of_leads hpath hs ht hk hl
  exact ⟨k', l', hk', hl', hcomparable ▸ hkl⟩

/-- **Names come in the order in which they come behind a path.** -/
theorem Precedes.of_leads (h : Precedes (path ++ s) (path ++ t)) (hpath : Leads path)
    (hs : ¬ BeginsForeign s) (ht : ¬ BeginsForeign t) : Precedes s t := by
  obtain ⟨k, l, hk, hl, hle⟩ := h
  obtain ⟨k', l', hk', hl', hcompare, -⟩ := exists_keys_of_leads hpath hs ht hk hl
  exact ⟨k', l', hk', hl', hcompare ▸ hle⟩

end Order

end Natural

end TokenConformance
