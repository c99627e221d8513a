import Mathlib.Data.Nat.Find
import TokenConformance.Proofs.Escape.Written
import TokenConformance.Proofs.Text.Pieces
import TokenConformance.Proofs.Text.Splice

/-!
# Where escapes stand — what unescaping makes of each index of a text

An escape is a backslash, `u` and four hexadecimal digits (`escapeAt?`); a backslash and `u` without
the digits are `Malformed`.  Escapes do not overlap (`windows_escapes`), so the scan from left to right
meets each backslash and `u` of the text, and replaces the escapes at the indices where they stand
(`resolve_of_wellFormed`), or stops at the first malformed one (`resolve_of_firstMalformed`).  Neither do
surrogate pairs overlap (`windows_pairs`).
-/

namespace TokenConformance.Escape

/-! ## Definitions -/

section Defs

/-- A backslash and `u` stand at an index. -/
def OccursAt (t : Text) (i : Nat) : Prop := Text.ofString "\\u" <+: t.drop i

/-- The code point that an escape at the beginning of a text stands for. -/
def escapeAt? : Text → Option CodePoint
  | x :: y :: a :: b :: c :: d :: _ =>
    if x = '\\' ∧ y = 'u' then (CodePoint.hex4? a b c d).map .ofNat else none
  | _ => none

instance (t : Text) (i : Nat) : Decidable (OccursAt t i) :=
  inferInstanceAs (Decidable (_ <+: _))

/-- Four hexadecimal digits are wanting behind a backslash and `u`. -/
def Malformed (t : Text) (i : Nat) : Prop := OccursAt t i ∧ escapeAt? (t.drop i) = none

instance (t : Text) (i : Nat) : Decidable (Malformed t i) := inferInstanceAs (Decidable (_ ∧ _))

/-- The code point that a surrogate pair at the beginning of a text stands for. -/
def pairAt? : Text → Option CodePoint
  | c :: d :: _ =>
    if c.isHighSurrogate = true ∧ d.isLowSurrogate = true then some (c.joinPair d) else none
  | _ => none

/-- The text with a code point in the place of each escape. -/
def replaced (t : Text) : Text := t.splice 6 escapeAt?

/-- The text with a code point in the place of each surrogate pair. -/
def joined (t : Text) : Text := t.splice 2 pairAt?

end Defs

/-! ## Digits -/

section DigitsRead

variable {c h₁ h₂ h₃ h₄ : CodePoint} {n : Nat}

/-- The digits that are read are those that may be written. -/
theorem writesDigit_of_hexValue? (h : c.hexValue? = some n) : WritesDigit n c := by
  have hdigits : ∀ k < 10, (Text.ofString "0123456789abcdef")[k]? = some (.ofNat (0x30 + k)) := by
    decide
  have hcapital : ∀ k < 6, (Text.ofString "0123456789ABCDEF")[10 + k]? = some (.ofNat (0x41 + k)) := by
    decide
  have hsmall : ∀ k < 6, (Text.ofString "0123456789abcdef")[10 + k]? = some (.ofNat (0x61 + k)) := by
    decide
  have hc : ∀ k, k = c.val → CodePoint.ofNat k = c := fun k hk => hk ▸ ofNat_val c
  simp only [CodePoint.hexValue?, CodePoint.isDigit, Bool.and_eq_true, decide_eq_true_eq] at h
  split at h
  · cases h
    left
    rw [hdigits _ (by omega), hc _ (by omega)]
  · split at h
    · cases h
      right
      have hn : c.val - 0x37 = 10 + (c.val - 0x41) := by omega
      rw [hn, hcapital _ (by omega), hc _ (by omega)]
    · split at h
      · cases h
        left
        have hn : c.val - 0x57 = 10 + (c.val - 0x61) := by omega
        rw [hn, hsmall _ (by omega), hc _ (by omega)]
      · cases h

/-- Four digits are read as the number whose digits they are. -/
theorem hex4?_eq_some_iff : CodePoint.hex4? h₁ h₂ h₃ h₄ = some n ↔
    WritesDigit (n / 0x1000) h₁ ∧ WritesDigit (n / 0x100 % 0x10) h₂ ∧
      WritesDigit (n / 0x10 % 0x10) h₃ ∧ WritesDigit (n % 0x10) h₄ := by
  refine ⟨fun h => ?_, fun ⟨hw₁, hw₂, hw₃, hw₄⟩ => hex4?_of_writesDigit hw₁ hw₂ hw₃ hw₄⟩
  simp only [CodePoint.hex4?, Option.bind_eq_bind, Option.bind_eq_some_iff] at h
  obtain ⟨v₁, hv₁, v₂, hv₂, v₃, hv₃, v₄, hv₄, hn⟩ := h
  cases hn
  have hw₁ := writesDigit_of_hexValue? hv₁
  have hw₂ := writesDigit_of_hexValue? hv₂
  have hw₃ := writesDigit_of_hexValue? hv₃
  have hw₄ := writesDigit_of_hexValue? hv₄
  have hlt₁ := hw₁.lt
  have hlt₂ := hw₂.lt
  have hlt₃ := hw₃.lt
  have hlt₄ := hw₄.lt
  have hdigit₁ : (((v₁ * 16 + v₂) * 16 + v₃) * 16 + v₄) / 0x1000 = v₁ := by omega
  have hdigit₂ : (((v₁ * 16 + v₂) * 16 + v₃) * 16 + v₄) / 0x100 % 0x10 = v₂ := by omega
  have hdigit₃ : (((v₁ * 16 + v₂) * 16 + v₃) * 16 + v₄) / 0x10 % 0x10 = v₃ := by omega
  have hdigit₄ : (((v₁ * 16 + v₂) * 16 + v₃) * 16 + v₄) % 0x10 = v₄ := by omega
  rw [hdigit₁, hdigit₂, hdigit₃, hdigit₄]
  exact ⟨hw₁, hw₂, hw₃, hw₄⟩

theorem WritesDigit.ne_backslash (h : WritesDigit n c) : c ≠ '\\' := by
  intro hc
  have hvalue := h.hexValue?
  have hnone : CodePoint.hexValue? '\\' = none := by decide
  rw [hc, hnone] at hvalue
  cases hvalue

end DigitsRead

/-! ## Windows -/

section WindowsOfText

variable {t : Text} {c : CodePoint} {i j : Nat}

theorem escapeAt?_eq_some_iff : escapeAt? t = some c ↔
    ∃ h₁ h₂ h₃ h₄ rest n, t = Text.ofString "\\u" ++ h₁ :: h₂ :: h₃ :: h₄ :: rest ∧
      CodePoint.hex4? h₁ h₂ h₃ h₄ = some n ∧ c = .ofNat n := by
  constructor
  · intro h
    unfold escapeAt? at h
    split at h
    · rename_i x y h₁ h₂ h₃ h₄ rest
      split at h
      · rename_i hxy
        obtain ⟨n, hn, rfl⟩ := Option.map_eq_some_iff.1 h
        obtain ⟨rfl, rfl⟩ := hxy
        exact ⟨h₁, h₂, h₃, h₄, rest, n, rfl, hn, rfl⟩
      · cases h
    · cases h
  · rintro ⟨h₁, h₂, h₃, h₄, rest, n, rfl, hn, rfl⟩
    have hmap : (CodePoint.hex4? h₁ h₂ h₃ h₄).map CodePoint.ofNat = some (.ofNat n) := by rw [hn]; rfl
    exact hmap

/-- An escape is read as the code unit that it was written for. -/
theorem escapeAt?_iff_writesUnits : escapeAt? t = some c ↔
    ∃ n, WritesUnits [n] (t.take 6) ∧ c = .ofNat n := by
  rw [escapeAt?_eq_some_iff]
  constructor
  · rintro ⟨h₁, h₂, h₃, h₄, rest, n, rfl, hn, rfl⟩
    obtain ⟨hw₁, hw₂, hw₃, hw₄⟩ := hex4?_eq_some_iff.1 hn
    exact ⟨n, .cons hw₁ hw₂ hw₃ hw₄ .nil, rfl⟩
  · rintro ⟨n, hw, rfl⟩
    generalize htake : t.take 6 = e at hw
    cases hw with
    | @cons _ _ h₁ h₂ h₃ h₄ _ hw₁ hw₂ hw₃ hw₄ hnil =>
      cases hnil
      refine ⟨h₁, h₂, h₃, h₄, t.drop 6, n, ?_, hex4?_of_writesDigit hw₁ hw₂ hw₃ hw₄, rfl⟩
      rw [← List.take_append_drop 6 t, htake]
      rfl

/-- No backslash stands within an escape. -/
theorem not_occursAt_of_escapeAt? (h : escapeAt? t = some c) (hi : 0 < i) (hwidth : i < 6) :
    ¬ OccursAt t i := by
  obtain ⟨h₁, h₂, h₃, h₄, rest, n, rfl, hn, -⟩ := escapeAt?_eq_some_iff.1 h
  obtain ⟨hw₁, hw₂, hw₃, hw₄⟩ := hex4?_eq_some_iff.1 hn
  have hu : CodePoint.ofChar 'u' ≠ '\\' := by decide
  rintro ⟨after, hocc⟩
  have hhead : ((Text.ofString "\\u" ++ h₁ :: h₂ :: h₃ :: h₄ :: rest).drop i).head? =
      some (CodePoint.ofChar '\\') := by rw [← hocc]; rfl
  rw [List.head?_drop] at hhead
  have hi' : i = 1 ∨ i = 2 ∨ i = 3 ∨ i = 4 ∨ i = 5 := by omega
  rcases hi' with rfl | rfl | rfl | rfl | rfl
  · exact hu (Option.some.inj hhead)
  · exact hw₁.ne_backslash (Option.some.inj hhead)
  · exact hw₂.ne_backslash (Option.some.inj hhead)
  · exact hw₃.ne_backslash (Option.some.inj hhead)
  · exact hw₄.ne_backslash (Option.some.inj hhead)

/-- The next backslash and `u` stand behind an escape. -/
theorem le_of_occursAt (h : escapeAt? (t.drop i) = some c) (hocc : OccursAt t j) (hij : i < j) :
    i + 6 ≤ j := by
  by_contra hlt
  have hwithin : ¬ OccursAt (t.drop i) (j - i) :=
    not_occursAt_of_escapeAt? h (by omega) (by omega)
  rw [OccursAt, List.drop_drop, Nat.add_sub_cancel' (Nat.le_of_lt hij)] at hwithin
  exact hwithin hocc

theorem occursAt_of_escapeAt? (h : escapeAt? (t.drop i) = some c) : OccursAt t i := by
  obtain ⟨h₁, h₂, h₃, h₄, rest, n, ht, -, -⟩ := escapeAt?_eq_some_iff.1 h
  exact ⟨h₁ :: h₂ :: h₃ :: h₄ :: rest, ht.symm⟩

/-- An escape within an escape would have its backslash there. -/
theorem windows_escapes : Text.Windows 6 escapeAt? where
  pos := by decide
  length_le h := by
    obtain ⟨h₁, h₂, h₃, h₄, rest, n, rfl, -, -⟩ := escapeAt?_eq_some_iff.1 h
    simp [Text.ofString]
  apart {t c} h k hk hwidth := by
    by_contra hsome
    obtain ⟨c', hc'⟩ := Option.ne_none_iff_exists'.1 hsome
    exact not_occursAt_of_escapeAt? h hk hwidth (occursAt_of_escapeAt? hc')

theorem replaced_of_escapeAt? (h : escapeAt? t = some c) :
    replaced t = c :: replaced (t.drop 6) := windows_escapes.splice_of_read h

theorem replaced_cons (h : escapeAt? (c :: t) = none) : replaced (c :: t) = c :: replaced t :=
  Text.splice_cons h

theorem pairAt?_eq_some_iff : pairAt? t = some c ↔
    ∃ high low rest, t = high :: low :: rest ∧ high.isHighSurrogate = true ∧
      low.isLowSurrogate = true ∧ c = high.joinPair low := by
  constructor
  · intro h
    unfold pairAt? at h
    split at h
    · rename_i high low rest
      split at h
      · rename_i hpair
        exact ⟨high, low, rest, rfl, hpair.1, hpair.2, (Option.some.inj h).symm⟩
      · cases h
    · cases h
  · rintro ⟨high, low, rest, rfl, hhigh, hlow, hc⟩
    rw [hc]
    exact if_pos ⟨hhigh, hlow⟩

/-- A surrogate pair is read as the code point that has it for its UTF-16 code units. -/
theorem pairAt?_iff_utf16 : pairAt? t = some c ↔
    ∃ high low rest, t = high :: low :: rest ∧ c.utf16 = [high.val, low.val] := by
  rw [pairAt?_eq_some_iff]
  constructor
  · rintro ⟨high, low, rest, rfl, hhigh, hlow, hc⟩
    simp only [CodePoint.isHighSurrogate, CodePoint.isLowSurrogate, Bool.and_eq_true,
      decide_eq_true_eq] at hhigh hlow
    have hval : c.val = 0x10000 + (high.val - 0xD800) * 0x400 + (low.val - 0xDC00) := by
      rw [hc, CodePoint.joinPair, CodePoint.ofNat, dif_pos (by omega)]
    have hhigh' : 0xD800 + (c.val - 0x10000) / 0x400 = high.val := by omega
    have hlow' : 0xDC00 + (c.val - 0x10000) % 0x400 = low.val := by omega
    refine ⟨high, low, rest, rfl, ?_⟩
    rw [CodePoint.utf16, if_neg (by omega), hhigh', hlow']
  · rintro ⟨high, low, rest, rfl, hunits⟩
    have hlt := c.isLt
    unfold CodePoint.utf16 at hunits
    split at hunits
    · have hlength := congrArg List.length hunits
      cases hlength
    · obtain ⟨hhigh, hrest⟩ := List.cons.inj hunits
      have hlow := (List.cons.inj hrest).1
      refine ⟨high, low, rest, rfl, ?_, ?_, ?_⟩
      · simp only [CodePoint.isHighSurrogate, Bool.and_eq_true, decide_eq_true_eq]
        omega
      · simp only [CodePoint.isLowSurrogate, Bool.and_eq_true, decide_eq_true_eq]
        omega
      · have hval : 0x10000 + (high.val - 0xD800) * 0x400 + (low.val - 0xDC00) = c.val := by omega
        rw [CodePoint.joinPair, hval, ofNat_val]

/-- A low surrogate is no high one. -/
theorem windows_pairs : Text.Windows 2 pairAt? where
  pos := by decide
  length_le h := by
    obtain ⟨high, low, rest, rfl, -⟩ := pairAt?_eq_some_iff.1 h
    simp
  apart {t c} h k hk hwidth := by
    obtain ⟨high, low, rest, rfl, -, hlow, -⟩ := pairAt?_eq_some_iff.1 h
    obtain rfl : k = 1 := by omega
    by_contra hsome
    obtain ⟨c', hc'⟩ := Option.ne_none_iff_exists'.1 hsome
    obtain ⟨high', low', rest', hrest, hhigh', -⟩ := pairAt?_eq_some_iff.1 hc'
    obtain ⟨rfl, -⟩ := List.cons.inj hrest
    simp only [CodePoint.isHighSurrogate, CodePoint.isLowSurrogate, Bool.and_eq_true,
      decide_eq_true_eq] at hhigh' hlow
    omega

/-- Joining from left to right joins the surrogate pairs where they stand. -/
theorem joinPairs_eq_joined : ∀ t : Text, t.joinPairs = joined t
  | [] => rfl
  | [c] => by
    have hread : pairAt? [c] = none := rfl
    rw [joined, Text.splice_cons hread]
    rfl
  | c :: d :: t => by
    by_cases hpair : c.isHighSurrogate = true ∧ d.isLowSurrogate = true
    · have hread : pairAt? (c :: d :: t) = some (c.joinPair d) := if_pos hpair
      have ih := joinPairs_eq_joined t
      rw [Text.joinPairs, if_pos (Bool.and_eq_true_iff.2 hpair), joined,
        windows_pairs.splice_of_read hread, ih]
      rfl
    · have hread : pairAt? (c :: d :: t) = none := if_neg hpair
      have ih := joinPairs_eq_joined (d :: t)
      rw [Text.joinPairs, if_neg (mt Bool.and_eq_true_iff.1 hpair), joined,
        Text.splice_cons hread, ih]
      rfl

end WindowsOfText

/-! ## The scan -/

section Scan

variable {t : Text} {c : CodePoint} {i j : Nat}

theorem malformed_drop (k : Nat) : Malformed (t.drop k) i ↔ Malformed t (k + i) := by
  rw [Malformed, Malformed, OccursAt, OccursAt, List.drop_drop]

theorem not_malformed_of_escapeAt? (h : escapeAt? t = some c) (hi : i < 6) : ¬ Malformed t i := by
  rintro ⟨hocc, hnone⟩
  by_cases hzero : i = 0
  · rw [hzero, List.drop_zero, h] at hnone
    cases hnone
  · exact not_occursAt_of_escapeAt? h (Nat.pos_of_ne_zero hzero) hi hocc

theorem escapeAt?_of_not_occursAt (h : ¬ OccursAt t 0) : escapeAt? t = none := by
  by_contra hsome
  obtain ⟨c, hc⟩ := Option.ne_none_iff_exists'.1 hsome
  exact h (occursAt_of_escapeAt? (i := 0) hc)

/-- Each text is empty or begins with an escape, a malformed one, or some other code point. -/
theorem scan_induction {P : Text → Prop} (nil : P [])
    (escape : ∀ t c, escapeAt? t = some c → P (t.drop 6) → P t)
    (malformed : ∀ t, Malformed t 0 → P t)
    (plain : ∀ c t, ¬ OccursAt (c :: t) 0 → P t → P (c :: t)) : ∀ t, P t
  | [] => nil
  | c :: t => by
    by_cases hocc : OccursAt (c :: t) 0
    · cases hread : escapeAt? (c :: t) with
      | none => exact malformed _ ⟨hocc, hread⟩
      | some d => exact escape _ d hread (scan_induction nil escape malformed plain _)
    · exact plain c t hocc (scan_induction nil escape malformed plain t)
  termination_by t => t.length
  decreasing_by
    · rw [List.length_drop, List.length_cons]
      omega
    · exact Nat.lt_succ_self _

theorem occursAt_zero_iff : OccursAt (c :: t) 0 ↔ c = '\\' ∧ t.head? = some (CodePoint.ofChar 'u') := by
  unfold OccursAt
  rw [List.drop_zero]
  constructor
  · rintro ⟨rest, h⟩
    obtain ⟨rfl, rfl⟩ := List.cons.inj h
    exact ⟨rfl, rfl⟩
  · rintro ⟨rfl, hhead⟩
    obtain ⟨rest, rfl⟩ := List.head?_eq_some_iff.1 hhead
    exact ⟨rest, rfl⟩

theorem resolve_of_escapeAt? (h : escapeAt? t = some c) (index : Nat) :
    resolve index t = (resolve (index + 6) (t.drop 6)).map (c :: ·) := by
  obtain ⟨h₁, h₂, h₃, h₄, rest, n, rfl, hn, rfl⟩ := escapeAt?_eq_some_iff.1 h
  have hscan : resolve index
      (CodePoint.ofChar '\\' :: CodePoint.ofChar 'u' :: h₁ :: h₂ :: h₃ :: h₄ :: rest) =
        (resolve (index + 6) rest).map (.ofNat n :: ·) := by
    rw [resolve, if_pos (by simp), hn]
  exact hscan

theorem resolve_of_not_occursAt (h : ¬ OccursAt (c :: t) 0) (index : Nat) :
    resolve index (c :: t) = (resolve (index + 1) t).map (c :: ·) := by
  rw [occursAt_zero_iff] at h
  rw [resolve.eq_def]
  dsimp only
  rw [if_neg (by simpa using h)]

theorem resolve_of_malformed (h : Malformed t 0) (index : Nat) : resolve index t = .error index := by
  obtain ⟨⟨rest, ht⟩, hread⟩ := h
  rw [List.drop_zero] at ht hread
  have ht' : t = CodePoint.ofChar '\\' :: CodePoint.ofChar 'u' :: rest := ht.symm
  rw [ht'] at hread
  rw [ht', resolve.eq_def]
  dsimp only
  rw [if_pos (by simp)]
  -- with four digits behind it the escape would be read
  split
  · rename_i u h₁ h₂ h₃ h₄ rest' hrest
    obtain ⟨-, rfl⟩ := List.cons.inj hrest
    have hmap : (CodePoint.hex4? h₁ h₂ h₃ h₄).map CodePoint.ofNat = none := hread
    rw [Option.map_eq_none_iff.1 hmap]
  · rfl

/-- Without malformed escapes the scan replaces all escapes. -/
theorem resolve_of_wellFormed (h : ∀ i, ¬ Malformed t i) (index : Nat) :
    resolve index t = .ok (replaced t) := by
  induction t using scan_induction generalizing index with
  | nil => rfl
  | escape t c hread ih =>
    have hrest : ∀ i, ¬ Malformed (t.drop 6) i := fun i hi => h (6 + i) ((malformed_drop 6).1 hi)
    rw [resolve_of_escapeAt? hread, ih hrest, replaced_of_escapeAt? hread]
    rfl
  | malformed t hmalformed => exact absurd hmalformed (h 0)
  | plain c t hocc ih =>
    have hrest : ∀ i, ¬ Malformed t i := fun i hi => h (1 + i) ((malformed_drop 1).1 hi)
    rw [resolve_of_not_occursAt hocc, ih hrest, replaced_cons (escapeAt?_of_not_occursAt hocc)]
    rfl

/-- The scan stops at the first malformed escape. -/
theorem resolve_of_firstMalformed (h : Malformed t i) (hfirst : ∀ j < i, ¬ Malformed t j)
    (index : Nat) : resolve index t = .error (index + i) := by
  induction t using scan_induction generalizing index i with
  | nil =>
    obtain ⟨⟨rest, hocc⟩, -⟩ := h
    rw [List.drop_nil] at hocc
    cases hocc
  | escape t c hread ih =>
    have hi : 6 ≤ i := by
      by_contra hlt
      exact not_malformed_of_escapeAt? hread (by omega) h
    obtain ⟨k, rfl⟩ := Nat.exists_eq_add_of_le hi
    have hrest := ih ((malformed_drop 6).2 h)
      (fun j hj hmalformed => hfirst (6 + j) (by omega) ((malformed_drop 6).1 hmalformed))
    rw [resolve_of_escapeAt? hread, hrest, Nat.add_assoc]
    rfl
  | malformed t hmalformed =>
    have hi : i = 0 := by
      by_contra hne
      exact hfirst 0 (Nat.pos_of_ne_zero hne) hmalformed
    rw [resolve_of_malformed hmalformed, hi, Nat.add_zero]
  | plain c t hocc ih =>
    have hi : 1 ≤ i := by
      by_contra hlt
      obtain rfl : i = 0 := by omega
      exact hocc h.1
    obtain ⟨k, rfl⟩ := Nat.exists_eq_add_of_le hi
    have hrest := ih ((malformed_drop (t := c :: t) 1).2 h)
      (fun j hj hmalformed => hfirst (1 + j) (by omega) ((malformed_drop (t := c :: t) 1).1 hmalformed))
    rw [resolve_of_not_occursAt hocc, hrest, Nat.add_assoc]
    rfl

end Scan

/-! ## Unescaping -/

section Unescape

variable {t : Text} {i : Nat}

theorem occursIn_iff_exists : occursIn t = true ↔ ∃ i, OccursAt t i := by
  rw [occursIn, Text.occursIn_iff]
  constructor
  · rintro ⟨before, after, rfl⟩
    refine ⟨before.length, after, ?_⟩
    rw [List.append_assoc, List.drop_left]
  · rintro ⟨i, after, h⟩
    refine ⟨t.take i, after, ?_⟩
    rw [List.append_assoc, h, List.take_append_drop]

theorem unescape_of_not_occursAt (h : ∀ i, ¬ OccursAt t i) : unescape t = .ok t := by
  have hnone : ¬ occursIn t = true := fun hocc => (occursIn_iff_exists.1 hocc).elim h
  rw [unescape, if_neg hnone]

theorem unescape_of_wellFormed (hocc : OccursAt t i) (h : ∀ j, ¬ Malformed t j) :
    unescape t = .ok (joined (replaced t)) := by
  rw [unescape, if_pos (occursIn_iff_exists.2 ⟨i, hocc⟩), resolve_of_wellFormed h,
    ← joinPairs_eq_joined]

theorem unescape_of_firstMalformed (h : Malformed t i) (hfirst : ∀ j < i, ¬ Malformed t j) :
    unescape t = .error ⟨t, i⟩ := by
  rw [unescape, if_pos (occursIn_iff_exists.2 ⟨i, h.1⟩), resolve_of_firstMalformed h hfirst,
    Nat.zero_add]

/-- Where an escape is malformed, one of them is the first. -/
theorem exists_firstMalformed (h : Malformed t i) :
    ∃ k, Malformed t k ∧ ∀ j < k, ¬ Malformed t j := by
  have hexists : ∃ k, Malformed t k := ⟨i, h⟩
  exact ⟨Nat.find hexists, Nat.find_spec hexists, fun j hj => Nat.find_min hexists hj⟩

theorem unescape_eq_error_iff {e : EscapeError} : unescape t = .error e ↔
    e.text = t ∧ Malformed t e.index ∧ ∀ j < e.index, ¬ Malformed t j := by
  constructor
  · intro h
    by_cases hmalformed : ∃ i, Malformed t i
    · obtain ⟨i, hi⟩ := hmalformed
      obtain ⟨k, hk, hfirst⟩ := exists_firstMalformed hi
      rw [unescape_of_firstMalformed hk hfirst] at h
      cases h
      exact ⟨rfl, hk, hfirst⟩
    · have hwell : ∀ i, ¬ Malformed t i := fun i hi => hmalformed ⟨i, hi⟩
      by_cases hocc : ∃ i, OccursAt t i
      · obtain ⟨i, hi⟩ := hocc
        rw [unescape_of_wellFormed hi hwell] at h
        cases h
      · rw [unescape_of_not_occursAt fun i hi => hocc ⟨i, hi⟩] at h
        cases h
  · rintro ⟨rfl, hmalformed, hfirst⟩
    exact unescape_of_firstMalformed hmalformed hfirst

/-- **Unescaping, exactly.**  It fails exactly if an escape is malformed, and tells the text and the
first such index.  Otherwise all escapes, which do not overlap, are replaced at the indices where they
stand and the surrogate pairs of what comes of it are joined; a text without escapes stays.  Escapes
are what may be written for a code unit, and pairs the code units of one code point. -/
theorem unescape_exactly (t : Text) :
    ((∃ e, unescape t = .error e) ↔ ∃ i, Malformed t i) ∧
    (∀ e, unescape t = .error e →
      e.text = t ∧ Malformed t e.index ∧ ∀ i < e.index, ¬ Malformed t i) ∧
    ((∃ i, OccursAt t i) → (∀ i, ¬ Malformed t i) → unescape t = .ok (joined (replaced t))) ∧
    ((∀ i, ¬ OccursAt t i) → unescape t = .ok t) ∧
    (∀ i j c, escapeAt? (t.drop i) = some c → OccursAt t j → i < j → i + 6 ≤ j) ∧
    (∀ s c, escapeAt? s = some c ↔ ∃ n, WritesUnits [n] (s.take 6) ∧ c = .ofNat n) ∧
    (∀ s c, pairAt? s = some c ↔
      ∃ high low rest, s = high :: low :: rest ∧ c.utf16 = [high.val, low.val]) := by
  refine ⟨⟨?_, ?_⟩, fun e => unescape_eq_error_iff.1, ?_, unescape_of_not_occursAt, ?_,
    fun _ _ => escapeAt?_iff_writesUnits, fun _ _ => pairAt?_iff_utf16⟩
  · rintro ⟨e, he⟩
    exact ⟨e.index, (unescape_eq_error_iff.1 he).2.1⟩
  · rintro ⟨i, hi⟩
    obtain ⟨k, hk, hfirst⟩ := exists_firstMalformed hi
    exact ⟨_, unescape_of_firstMalformed hk hfirst⟩
  · rintro ⟨i, hi⟩ hwell
    exact unescape_of_wellFormed hi hwell
  · intro i j c hread hocc hij
    exact le_of_occursAt hread hocc hij

end Unescape

end TokenConformance.Escape
