import Mathlib.Algebra.Group.Nat.Defs
import TokenConformance.Proofs.Text.PrefixFree
import TokenConformance.Text.Digit
import TokenConformance.Text.Quote

/-!
# Quoted texts — reading them back

Whatever counts as printable, a code point can be read off its quoted form, and nothing of what follows
is needed for it (`readQuoted_quotedChar`).  So quoted texts are told apart (`toldApart_quoteWith`), and
they stay on one line (`newline_notMem_quoteWith`).
-/

namespace TokenConformance.Text

variable {printable : CodePoint → Bool} {mark c : CodePoint}

/-! ## Definitions -/

section Defs

/-- The number of hexadecimal digits that the letter of an escape asks for. -/
def escapeWidth? (c : CodePoint) : Option Nat :=
  if c = 'x' then some 2
  else if c = 'u' then some 4
  else if c = 'U' then some 8
  else none

/-- What the letter of an escape without digits stands for; other code points stand for themselves. -/
def letterEscape (c : CodePoint) : CodePoint :=
  if c = 'n' then '\n'
  else if c = 'r' then '\r'
  else if c = 't' then '\t'
  else c

/-- Reads what a backslash has behind it, and gives the rest. -/
def readEscape : Text → Option (CodePoint × Text)
  | [] => none
  | c :: rest =>
    match escapeWidth? c with
    | some width =>
      some (CodePoint.ofNat (Numeral.hexadecimal (rest.take width)), rest.drop width)
    | none => some (letterEscape c, rest)

/-- Reads a code point off the inside of a quoted text, and gives the rest. -/
def readQuoted : Text → Option (CodePoint × Text)
  | [] => none
  | c :: rest => if c = '\\' then readEscape rest else some (c, rest)

/-- An apostrophe or a double quote. -/
def IsMark (mark : CodePoint) : Prop := mark = 0x27 ∨ mark = 0x22

instance : DecidablePred IsMark := fun _ => inferInstanceAs (Decidable (_ ∨ _))

end Defs

/-! ## Hexadecimal digits -/

section Digits

theorem length_hexDigits : ∀ width n, (hexDigits width n).length = width
  | 0, _ => rfl
  | width + 1, n => by rw [hexDigits, List.length_append, length_hexDigits width]; rfl

theorem hexValue?_hexDigit : ∀ n < 16, (hexDigit n).hexValue? = some n := by decide

/-- The digits write the number as far as they reach. -/
theorem hexadecimal_hexDigits (width n : Nat) :
    Numeral.hexadecimal (hexDigits width n) = n % 16 ^ width := by
  induction width generalizing n with
  | zero => rw [Nat.pow_zero, Nat.mod_one]; rfl
  | succ width ih =>
    have hlast : (hexDigit (n % 16)).hexValue?.getD 0 = n % 16 := by
      rw [hexValue?_hexDigit _ (Nat.mod_lt _ (by decide)), Option.getD_some]
    have hconcat : Numeral.hexadecimal (hexDigits (width + 1) n) =
        Numeral.hexadecimal (hexDigits width (n / 16)) * 16 + n % 16 := by
      rw [hexDigits, Numeral.hexadecimal, Numeral.ofDigits, List.map_append, List.foldl_append,
        List.map_singleton, hlast]
      rfl
    rw [hconcat, ih, Nat.pow_succ', Nat.mod_mul]
    omega

theorem hexDigit_ne_newline : ∀ n < 16, hexDigit n ≠ CodePoint.ofChar '\n' := by decide

theorem newline_notMem_hexDigits (width n : Nat) : CodePoint.ofChar '\n' ∉ hexDigits width n := by
  induction width generalizing n with
  | zero => exact List.not_mem_nil
  | succ width ih =>
    rw [hexDigits, List.mem_append, List.mem_singleton, not_or]
    exact ⟨ih (n / 16), (hexDigit_ne_newline _ (Nat.mod_lt _ (by decide))).symm⟩

end Digits

/-! ## One code point -/

section Chars

/-- An escape with enough digits gives the code point that it was made from. -/
theorem readQuoted_digits (letter : CodePoint) {width : Nat} (hletter : escapeWidth? letter = some width)
    (hc : c.val < 16 ^ width) (s : Text) :
    readQuoted ([CodePoint.ofChar '\\', letter] ++ hexDigits width c.val ++ s) = some (c, s) := by
  have hlength := length_hexDigits width c.val
  have hnumber : CodePoint.ofNat c.val = c := dif_pos c.isLt
  show readEscape (letter :: (hexDigits width c.val ++ s)) = _
  rw [readEscape, hletter]
  simp only [List.take_left' hlength, List.drop_left' hlength]
  rw [hexadecimal_hexDigits, Nat.mod_eq_of_lt hc, hnumber]

theorem readQuoted_numericEscape (c : CodePoint) (s : Text) :
    readQuoted (numericEscape c ++ s) = some (c, s) := by
  rw [numericEscape]
  split
  · exact readQuoted_digits 'x' (by decide) (by omega) s
  · split
    · exact readQuoted_digits 'u' (by decide) (by omega) s
    · exact readQuoted_digits 'U' (by decide) (by omega) s

/-- **A code point is read off its quoted form**, whatever follows and whatever is printable. -/
theorem readQuoted_quotedChar (hmark : IsMark mark) (s : Text) :
    readQuoted (quotedChar printable mark c ++ s) = some (c, s) := by
  rw [quotedChar]
  split
  case isTrue hc =>
    obtain rfl | rfl : c = mark ∨ c = '\\' := by simpa using hc
    · obtain rfl | rfl := hmark <;> rfl
    · rfl
  case isFalse hc =>
    have hbackslash : c ≠ '\\' := fun heq => hc (by simp [heq])
    have hself : readQuoted ([c] ++ s) = some (c, s) := if_neg hbackslash
    -- the letters stand for their control codes, other code points for themselves or their number
    split_ifs with hn hr ht
    · rw [hn]; rfl
    · rw [hr]; rfl
    · rw [ht]; rfl
    · exact readQuoted_numericEscape c s
    · exact hself
    · exact readQuoted_numericEscape c s

theorem toldApart_quotedChar (hmark : IsMark mark) (c : CodePoint) :
    ToldApart (quotedChar printable mark) (fun _ => True) c := by
  intro d _ s t heq
  have hread := congrArg readQuoted heq
  rw [readQuoted_quotedChar hmark, readQuoted_quotedChar hmark] at hread
  cases hread
  exact ⟨rfl, rfl⟩

/-- Escapes begin with a backslash, and everything else begins with itself. -/
theorem quotedChar_cases (printable : CodePoint → Bool) (mark c : CodePoint) :
    (∃ rest, quotedChar printable mark c = CodePoint.ofChar '\\' :: rest) ∨
      quotedChar printable mark c = [c] ∧ c ≠ mark := by
  have hnumeric : ∃ rest, numericEscape c = CodePoint.ofChar '\\' :: rest := by
    rw [numericEscape]
    split_ifs <;> exact ⟨_, rfl⟩
  rw [quotedChar]
  split
  · exact .inl ⟨[c], rfl⟩
  · rename_i hc
    have hmark : c ≠ mark := fun heq => hc (by simp [heq])
    split_ifs
    · exact .inl ⟨_, rfl⟩
    · exact .inl ⟨_, rfl⟩
    · exact .inl ⟨_, rfl⟩
    · exact .inl hnumeric
    · exact .inr ⟨rfl, hmark⟩
    · exact .inl hnumeric

theorem opensApart_quotedChar (hmark : IsMark mark) (c : CodePoint) :
    OpensApart (quotedChar printable mark) mark c := by
  intro s t heq
  obtain ⟨rest, hescape⟩ | ⟨hself, hc⟩ := quotedChar_cases printable mark c
  · rw [hescape, List.cons_append, List.cons_eq_cons] at heq
    obtain rfl | rfl := hmark <;> exact absurd heq.1 (by decide)
  · rw [hself, List.singleton_append, List.cons_eq_cons] at heq
    exact hc heq.1

theorem newline_notMem_quotedChar (hmark : IsMark mark) (c : CodePoint) :
    CodePoint.ofChar '\n' ∉ quotedChar printable mark c := by
  have hnumeric : CodePoint.ofChar '\n' ∉ numericEscape c := by
    rw [numericEscape]
    split_ifs <;> rw [List.mem_append, not_or] <;>
      exact ⟨by decide, newline_notMem_hexDigits _ _⟩
  rw [quotedChar]
  split
  case isTrue hc =>
    obtain rfl | rfl : c = mark ∨ c = '\\' := by simpa using hc
    · obtain rfl | rfl := hmark <;> decide
    · decide
  case isFalse hc =>
    split_ifs with hn
    · decide
    · decide
    · decide
    · exact hnumeric
    · rw [List.mem_singleton]
      exact Ne.symm hn
    · exact hnumeric

end Chars

/-! ## Texts -/

section Texts

theorem isMark_quoteMark (t : Text) : IsMark (quoteMark t) := by
  rw [quoteMark]
  split
  · exact .inr rfl
  · exact .inl rfl

/-- **Quoted texts are told apart**, whatever is printable. -/
theorem toldApart_quoteWith (printable : CodePoint → Bool) (t : Text) :
    ToldApart (quoteWith · printable) (fun _ => True) t := by
  intro u _ s v heq
  simp only [quoteWith, List.cons_append, List.cons_eq_cons] at heq
  obtain ⟨hmark, heq⟩ := heq
  rw [← hmark] at heq
  -- both are written with the same mark
  have hisMark := isMark_quoteMark t
  exact ToldApart.flatMap (fun _ _ => trivial) (fun c _ => toldApart_quotedChar hisMark c)
    (fun c _ => opensApart_quotedChar hisMark c) u (fun _ _ => trivial) s v heq

theorem newline_notMem_quoteWith (printable : CodePoint → Bool) (t : Text) :
    CodePoint.ofChar '\n' ∉ t.quoteWith printable := by
  have hisMark := isMark_quoteMark t
  have hmark : CodePoint.ofChar '\n' ≠ quoteMark t := by
    obtain h | h := hisMark <;> rw [h] <;> decide
  rw [quoteWith, List.cons_append, List.mem_cons, List.mem_append, List.mem_singleton,
    List.mem_flatMap]
  rintro (h | ⟨c, -, h⟩ | h)
  · exact hmark h
  · exact newline_notMem_quotedChar hisMark c h
  · exact hmark h

end Texts

end TokenConformance.Text
