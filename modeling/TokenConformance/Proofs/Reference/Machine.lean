import Mathlib.Data.List.MinMax
import TokenConformance.Reference.Named
import TokenConformance.Reference.Numeric

/-!
# The reference machine — reading character references state by state

A machine with a temporary buffer and a character reference code reads a text and emits it.  In the
state `plain` it emits what it consumes; an ampersand takes it through the states of a reference
and back.  A step either consumes from the input or looks at the same place again in another state,
of which there are only so many (`measure_step`), so the machine stops on every text.
-/

namespace TokenConformance.Reference.Machine

/-! ## Definitions -/

section Defs

/-- The states of the machine; `plain` is the state outside of references. -/
inductive State
  | plain
  | characterReference
  | named
  | ambiguousAmpersand
  | numeric
  | start (radix : Radix)
  | digits (radix : Radix)
  | numericEnd

/-- The machine between two steps: `input` is what it has not consumed, `output` what it has
emitted. -/
structure Config where
  state : State
  buffer : Text
  code : ℕ
  input : Text
  output : Text

/-- Whether the next code point is one of these. -/
def nextIs (p : CodePoint → Bool) (t : Text) : Bool := t.head?.any p

/-- The entry of the table with the longest name that the text starts with. -/
def longestName? (t : Text) : Option Named :=
  (table.filter fun r => r.name.isPrefixOf t).argmax fun r => r.name.length

def base : Radix → ℕ
  | .decimal => 10
  | .hexadecimal => 16

/-- What a digit adds to the code. -/
def digitValue? : Radix → CodePoint → Option ℕ
  | .decimal, c => if c.isDigit then some (c.val - 0x30) else none
  | .hexadecimal, c => c.hexValue?

/-- The code page that the codes 0x80 to 0x9F are read in.  The five places that are free in it
stand for themselves. -/
def westernPage : List CodePoint := [
  0x20AC, 0x81, 0x201A, 0x192, 0x201E, 0x2026, 0x2020, 0x2021, 0x2C6, 0x2030, 0x160, 0x2039, 0x152,
  0x8D, 0x17D, 0x8F, 0x90, 0x2018, 0x2019, 0x201C, 0x201D, 0x2022, 0x2013, 0x2014, 0x2DC, 0x2122,
  0x161, 0x203A, 0x153, 0x9D, 0x17E, 0x178]

/-- The code point that a character reference code stands for in the end. -/
def endCharacter (code : ℕ) : CodePoint :=
  if code = 0 then .replacement
  else if 0x10FFFF < code then .replacement
  else if (CodePoint.ofNat code).isSurrogate then .replacement
  else if 0x80 ≤ code ∧ code ≤ 0x9F then westernPage.getD (code - 0x80) .replacement
  else .ofNat code

/-- Emits the buffer and leaves the reference. -/
def Config.flush (c : Config) : Config := { c with state := .plain, output := c.output ++ c.buffer }

/-- One step; the machine stops at the end of the input outside of references. -/
def step (inAttribute : Bool) (c : Config) : Option Config :=
  match c.state with
  | .plain =>
    match c.input with
    | [] => none
    | x :: rest =>
      if x = '&' then some { c with state := .characterReference, input := rest }
      else some { c with input := rest, output := c.output ++ [x] }
  | .characterReference =>
    if nextIs CodePoint.isAlphanumeric c.input then some { c with state := .named, buffer := ['&'] }
    else if nextIs (· = .ofChar '#') c.input then
      some { c with state := .numeric, buffer := ['&', '#'], input := c.input.tail }
    else some { c with buffer := ['&'] }.flush
  | .named =>
    match longestName? c.input with
    | some r =>
      let after := c.input.drop r.name.length
      if inAttribute ∧ r.name.getLast? ≠ some (.ofChar ';') ∧
          nextIs (fun x => x = .ofChar '=' || x.isAlphanumeric) after then
        some { c with buffer := c.buffer ++ r.name, input := after }.flush
      else some { c with buffer := r.expansion, input := after }.flush
    | none => some { c.flush with state := .ambiguousAmpersand }
  | .ambiguousAmpersand =>
    if nextIs CodePoint.isAlphanumeric c.input then
      some { c with input := c.input.tail, output := c.output ++ c.input.take 1 }
    else some { c with state := .plain }
  | .numeric =>
    if nextIs (fun x => x = .ofChar 'x' || x = .ofChar 'X') c.input then
      some { c with state := .start .hexadecimal, buffer := c.buffer ++ c.input.take 1, code := 0,
                    input := c.input.tail }
    else some { c with state := .start .decimal, code := 0 }
  | .start radix =>
    if nextIs (fun x => (digitValue? radix x).isSome) c.input then
      some { c with state := .digits radix }
    else some c.flush
  | .digits radix =>
    match c.input with
    | [] => some { c with state := .numericEnd }
    | x :: rest =>
      match digitValue? radix x with
      | some d => some { c with code := c.code * base radix + d, input := rest }
      | none =>
        if x = ';' then some { c with state := .numericEnd, input := rest }
        else some { c with state := .numericEnd }
  | .numericEnd => some { c with buffer := [endCharacter c.code] }.flush

/-- How many states the machine may still pass through without consuming anything. -/
def State.rank : State → ℕ
  | .plain => 0
  | .ambiguousAmpersand | .numericEnd => 1
  | .named | .digits _ => 2
  | .start _ => 3
  | .characterReference | .numeric => 4

def Config.measure (c : Config) : ℕ := 5 * c.input.length + c.state.rank

end Defs

/-! ## The run -/

section Run

theorem tail_of_nextIs {p : CodePoint → Bool} {t : Text} (h : nextIs p t = true) :
    t.tail.length + 1 = t.length := by
  cases t with
  | nil => simp [nextIs] at h
  | cons x rest => rfl

/-- Every step comes nearer to the end. -/
theorem measure_step {inAttribute : Bool} {c c' : Config} (h : step inAttribute c = some c') :
    c'.measure < c.measure := by
  obtain ⟨state, buffer, code, input, output⟩ := c
  cases state with
  | plain =>
    cases input with
    | nil => cases h
    | cons x rest =>
      simp only [step] at h
      split at h
      · cases h
        simp only [Config.measure, State.rank, List.length_cons]
        omega
      · cases h
        simp only [Config.measure, State.rank, List.length_cons]
        omega
  | characterReference =>
    simp only [step] at h
    split_ifs at h with h1 h2
    · cases h
      simp [Config.measure, State.rank]
    · cases h
      have := tail_of_nextIs h2
      simp only [Config.measure, State.rank]
      omega
    · cases h
      simp [Config.measure, State.rank, Config.flush]
  | named =>
    simp only [step] at h
    split at h
    · split_ifs at h <;> cases h <;> simp [Config.measure, State.rank, Config.flush] <;> omega
    · cases h
      simp [Config.measure, State.rank, Config.flush]
  | ambiguousAmpersand =>
    simp only [step] at h
    split_ifs at h with h1
    · cases h
      have := tail_of_nextIs h1
      simp only [Config.measure, State.rank]
      omega
    · cases h
      simp [Config.measure, State.rank]
  | numeric =>
    simp only [step] at h
    split_ifs at h with h1
    · cases h
      have := tail_of_nextIs h1
      simp only [Config.measure, State.rank]
      omega
    · cases h
      simp [Config.measure, State.rank]
  | start radix =>
    simp only [step] at h
    split_ifs at h <;> cases h <;> simp [Config.measure, State.rank, Config.flush]
  | digits radix =>
    cases input with
    | nil => cases h; simp [Config.measure, State.rank]
    | cons x rest =>
      simp only [step] at h
      split at h
      · cases h
        simp [Config.measure]
      · split_ifs at h
        · cases h
          simp only [Config.measure, State.rank, List.length_cons]
          omega
        · cases h
          simp only [Config.measure, State.rank]
          omega
  | numericEnd =>
    cases h
    simp [Config.measure, State.rank, Config.flush]

/-- What the machine has emitted when it stops. -/
def run (inAttribute : Bool) (c : Config) : Text :=
  match _h : step inAttribute c with
  | none => c.output
  | some c' => run inAttribute c'
termination_by c.measure
decreasing_by exact measure_step _h

/-- The text as the machine emits it, from the state outside of references on. -/
def emit (inAttribute : Bool) (t : Text) : Text := run inAttribute ⟨.plain, [], 0, t, []⟩

variable {inAttribute : Bool} {c c' : Config}

theorem run_of_stop (h : step inAttribute c = none) : run inAttribute c = c.output := by
  rw [run]
  split <;> simp_all

theorem run_of_step (h : step inAttribute c = some c') :
    run inAttribute c = run inAttribute c' := by
  rw [run]
  split <;> simp_all

end Run

end TokenConformance.Reference.Machine
