import TokenConformance.Proofs.Escape.Occurrences
import TokenConformance.Proofs.ExceptLaws

/-!
# The shortcut of unescaping — where it can be noticed

A text without a backslash and `u` is left as it is.  All the passes that a text with escapes goes
through (`resolveAndJoin`) find no escape in it, but they join its surrogate pairs.  So the shortcut can
be noticed exactly in a text that has a raw pair and no escape (`unescape_eq_resolveAndJoin_iff`); one
more escape behind such a text joins the pair (`unescape_escape_behind_iff`).
-/

namespace TokenConformance

/-! ## Definitions -/

section Defs

/-- What is done to a text with escapes, done to any text. -/
def Escape.resolveAndJoin (t : Text) : Except EscapeError Text :=
  match resolve 0 t with
  | .ok resolved => .ok resolved.joinPairs
  | .error index => .error ⟨t, index⟩

/-- The letter A, written as an escape. -/
def Escape.escapedA : Text := Text.ofString "\\u0041"

/-- Two surrogates that are a pair, neither of them written as an escape. -/
def rawPair : Text := [0xD800, 0xDC00]

end Defs

/-! ## Joining -/

namespace Text

section Joining

variable {c d : CodePoint} {t : Text}

theorem joinPairs_of_pair (h : c.isHighSurrogate = true ∧ d.isLowSurrogate = true) :
    joinPairs (c :: d :: t) = c.joinPair d :: joinPairs t := by
  rw [joinPairs, if_pos (Bool.and_eq_true_iff.2 h)]

theorem joinPairs_of_not_pair (h : ¬ (c.isHighSurrogate = true ∧ d.isLowSurrogate = true)) :
    joinPairs (c :: d :: t) = c :: joinPairs (d :: t) := by
  rw [joinPairs, if_neg (mt Bool.and_eq_true_iff.1 h)]

theorem length_joinPairs_le : ∀ t : Text, t.joinPairs.length ≤ t.length
  | [] => Nat.le_refl _
  | [_] => Nat.le_refl _
  | c :: d :: t => by
    by_cases h : c.isHighSurrogate = true ∧ d.isLowSurrogate = true
    · rw [joinPairs_of_pair h]
      have := length_joinPairs_le t
      simp only [List.length_cons]
      omega
    · rw [joinPairs_of_not_pair h]
      exact Nat.succ_le_succ (length_joinPairs_le (d :: t))

/-- Joining changes a text exactly if there is a pair to join. -/
theorem joinPairs_eq_self_iff : ∀ {t : Text}, t.joinPairs = t ↔ t.SurrogatesApart
  | [] => iff_of_true rfl .nil
  | [_] => iff_of_true rfl (.singleton _)
  | c :: d :: t => by
    unfold SurrogatesApart
    rw [List.isChain_cons_cons]
    by_cases h : c.isHighSurrogate = true ∧ d.isLowSurrogate = true
    · -- a pair is joined to one code point, and no other code point comes in
      rw [joinPairs_of_pair h]
      refine iff_of_false (fun heq => ?_) fun hapart => hapart.1 h
      have hlength := congrArg List.length heq
      have hle := length_joinPairs_le t
      simp only [List.length_cons] at hlength
      omega
    · rw [joinPairs_of_not_pair h, List.cons_eq_cons, and_iff_right rfl, and_iff_right h]
      exact joinPairs_eq_self_iff

/-- Nothing is joined across a cut in front of a code point that is no low surrogate. -/
theorem joinPairs_append_cons (h : c.isLowSurrogate = false) (t : Text) : ∀ s : Text,
    joinPairs (s ++ c :: t) = s.joinPairs ++ joinPairs (c :: t)
  | [] => rfl
  | [a] => joinPairs_of_not_pair fun hpair => by rw [h] at hpair; cases hpair.2
  | a :: b :: s => by
    by_cases hpair : a.isHighSurrogate = true ∧ b.isLowSurrogate = true
    · rw [joinPairs_of_pair hpair, List.cons_append, List.cons_append, joinPairs_of_pair hpair,
        joinPairs_append_cons h t s]
      rfl
    · have ih := joinPairs_append_cons h t (b :: s)
      rw [joinPairs_of_not_pair hpair, List.cons_append, List.cons_append,
        joinPairs_of_not_pair hpair, ← List.cons_append, ih]
      rfl

end Joining

end Text

namespace Escape

/-! ## Resolving -/

section Resolving

variable {s t r : Text}

theorem escapeAt?_append {c : CodePoint} (h : escapeAt? s = some c) (t : Text) :
    escapeAt? (s ++ t) = some c ∧ (s ++ t).drop 6 = s.drop 6 ++ t := by
  obtain ⟨h₁, h₂, h₃, h₄, rest, n, rfl, hn, rfl⟩ := escapeAt?_eq_some_iff.1 h
  exact ⟨escapeAt?_eq_some_iff.2 ⟨h₁, h₂, h₃, h₄, rest ++ t, n, by simp, hn, rfl⟩, rfl⟩

/-- **A text that can be resolved is resolved in the same way in front of another**, unless the other
makes an escape of a backslash at its end. -/
theorem resolve_append (ht : t.head? ≠ some (CodePoint.ofChar 'u')) {index : Nat}
    (h : resolve index s = .ok r) :
    resolve index (s ++ t) = (resolve (index + s.length) t).map (r ++ ·) := by
  induction s using scan_induction generalizing index r with
  | nil =>
    cases h
    cases htail : resolve index t <;> simp [htail, Except.map]
  | escape s c hread ih =>
    obtain ⟨hread', hdrop⟩ := escapeAt?_append hread t
    rw [resolve_of_escapeAt? hread] at h
    obtain ⟨r, hr, rfl⟩ := Except.map_eq_ok_iff.1 h
    have hlength := windows_escapes.length_le hread
    have hindex : index + 6 + (s.drop 6).length = index + s.length := by
      rw [List.length_drop]
      omega
    rw [resolve_of_escapeAt? hread', hdrop, ih hr, hindex]
    cases resolve (index + s.length) t <;> rfl
  | malformed s hmalformed =>
    rw [resolve_of_malformed hmalformed] at h
    cases h
  | plain c s hocc ih =>
    rw [resolve_of_not_occursAt hocc] at h
    obtain ⟨r, hr, rfl⟩ := Except.map_eq_ok_iff.1 h
    have hocc' : ¬ OccursAt (c :: (s ++ t)) 0 := by
      rw [occursAt_zero_iff] at hocc ⊢
      rintro ⟨hc, hhead⟩
      cases s with
      | nil => exact ht hhead
      | cons d s => exact hocc ⟨hc, hhead⟩
    have hindex : index + 1 + s.length = index + (c :: s).length := by
      rw [List.length_cons]
      omega
    rw [List.cons_append, resolve_of_not_occursAt hocc', ih hr, hindex]
    cases resolve (index + (c :: s).length) t <;> rfl

theorem resolve_of_not_exists (h : ∀ i, ¬ OccursAt t i) (index : Nat) : resolve index t = .ok t := by
  induction t generalizing index with
  | nil => rfl
  | cons c t ih =>
    have hrest : ∀ i, ¬ OccursAt t i := fun i hi => h (i + 1) hi
    rw [resolve_of_not_occursAt (h 0), ih hrest]
    rfl

theorem resolve_escapedA (index : Nat) : resolve index escapedA = .ok (Text.ofString "A") := by
  have hread : escapeAt? escapedA = some (CodePoint.ofChar 'A') := by decide
  rw [resolve_of_escapeAt? hread]
  rfl

end Resolving

/-! ## The shortcut -/

section Shortcut

variable {t u : Text}

theorem unescape_of_exists (h : ∃ i, OccursAt t i) : unescape t = resolveAndJoin t := by
  rw [unescape, if_pos (occursIn_iff_exists.2 h)]
  rfl

theorem resolveAndJoin_of_not_exists (h : ∀ i, ¬ OccursAt t i) :
    resolveAndJoin t = .ok t.joinPairs := by
  rw [resolveAndJoin, resolve_of_not_exists h]

theorem unescape_eq_resolveAndJoin_iff :
    unescape t = resolveAndJoin t ↔ (∃ i, OccursAt t i) ∨ t.SurrogatesApart := by
  by_cases hocc : ∃ i, OccursAt t i
  · exact iff_of_true (unescape_of_exists hocc) (.inl hocc)
  · have hnone : ∀ i, ¬ OccursAt t i := not_exists.1 hocc
    rw [unescape_of_not_occursAt hnone, resolveAndJoin_of_not_exists hnone, Except.ok.injEq,
      eq_comm, Text.joinPairs_eq_self_iff, or_iff_right hocc]

/-- An escape behind a text that was resolved takes the shortcut from it. -/
theorem unescape_append_escapedA {r : Text} (h : resolve 0 t = .ok r) :
    unescape (t ++ escapedA) = .ok (r.joinPairs ++ Text.ofString "A") := by
  have hocc : OccursAt (t ++ escapedA) t.length := by
    rw [OccursAt, List.drop_left]
    exact ⟨Text.ofString "0041", rfl⟩
  have hresolve := resolve_append (t := escapedA) (by decide) h
  have hjoin : Text.joinPairs (r ++ Text.ofString "A") = r.joinPairs ++ Text.ofString "A" :=
    Text.joinPairs_append_cons (by decide) [] r
  rw [resolve_escapedA] at hresolve
  rw [unescape_of_exists ⟨_, hocc⟩, resolveAndJoin, hresolve]
  exact congrArg Except.ok hjoin

theorem unescape_escape_behind_iff (h : unescape t = .ok u) :
    unescape (t ++ escapedA) = .ok (u ++ Text.ofString "A") ↔
      (∃ i, OccursAt t i) ∨ t.SurrogatesApart := by
  by_cases hocc : ∃ i, OccursAt t i
  · rw [unescape_of_exists hocc, resolveAndJoin] at h
    cases hresolve : resolve 0 t with
    | error index =>
      rw [hresolve] at h
      cases h
    | ok r =>
      rw [hresolve] at h
      cases h
      exact iff_of_true (unescape_append_escapedA hresolve) (.inl hocc)
  · have hnone : ∀ i, ¬ OccursAt t i := not_exists.1 hocc
    rw [unescape_of_not_occursAt hnone] at h
    cases h
    rw [unescape_append_escapedA (resolve_of_not_exists hnone 0), Except.ok.injEq,
      List.append_cancel_right_eq, Text.joinPairs_eq_self_iff, or_iff_right hocc]

/-- **Where the shortcut can be noticed.**  A text without escapes is left as it is, while the passes
for texts with escapes would join its surrogate pairs.  The two agree exactly in texts that have an
escape or no pair, and in these alone one more escape behind the text adds no more than its own code
point. -/
theorem shortcut_unnoticed_iff (t : Text) :
    ((∀ i, ¬ OccursAt t i) → unescape t = .ok t ∧ resolveAndJoin t = .ok (joined t)) ∧
      (unescape t = resolveAndJoin t ↔ (∃ i, OccursAt t i) ∨ t.SurrogatesApart) ∧
      ∀ u, unescape t = .ok u →
        (unescape (t ++ escapedA) = .ok (u ++ Text.ofString "A") ↔
          (∃ i, OccursAt t i) ∨ t.SurrogatesApart) := by
  refine ⟨fun hnone => ⟨unescape_of_not_occursAt hnone, ?_⟩, unescape_eq_resolveAndJoin_iff,
    fun u => unescape_escape_behind_iff⟩
  rw [resolveAndJoin_of_not_exists hnone, joinPairs_eq_joined]

/-- A raw pair is left alone, but the passes would join it, and an escape behind it does. -/
theorem unescape_rawPair_ne :
    (∀ i, ¬ OccursAt rawPair i) ∧ unescape rawPair = .ok rawPair ∧
      resolveAndJoin rawPair = .ok [0x10000] ∧ unescape rawPair ≠ resolveAndJoin rawPair ∧
      unescape (rawPair ++ escapedA) = .ok [0x10000, 0x41] := by
  have hnone : ∀ i, ¬ OccursAt rawPair i := by
    rw [← not_exists, ← occursIn_iff_exists]
    decide
  exact ⟨hnone, by decide, by decide +kernel, by decide +kernel, by decide +kernel⟩

end Shortcut

end Escape

end TokenConformance
