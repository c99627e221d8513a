import TokenConformance.Reference.Named
import TokenConformance.Reference.Numeric

/-!
# Decoding character references — every reference in a text becomes what it stands for

At each ampersand a numeric reference or the longest named one is looked for; where there is none
the ampersand stands for itself.  In an attribute value a name without its semicolon is no
reference when an equals sign or an ASCII letter or digit follows.  The only failure is a decimal
number that is too long to read.
-/

namespace TokenConformance.Reference

/-- Whether the text goes on with an equals sign or an ASCII letter or digit. -/
def continuesWord : Text → Bool
  | [] => false
  | c :: _ => c = '=' || c.isAlphanumeric

/-- The reference that stands behind an ampersand: what it stands for and the text behind it. -/
def recognise (inAttribute : Bool) (t : Text) : Except NumeralError (Option (Text × Text)) :=
  match t with
  | [] => .ok none
  | c :: rest =>
    if c = '#' then (numeric? rest).map fun found => found.map fun (c, after) => ([c], after)
    else .ok <| match longestNamed? (c :: rest) with
      | none => none
      | some (r, after) =>
        if inAttribute && !r.isTerminated && continuesWord after then none
        else some (r.expansion, after)

/-- What follows a reference is shorter than the text it was found in. -/
theorem length_lt_of_recognise {inAttribute : Bool} {t s after : Text}
    (h : recognise inAttribute t = .ok (some (s, after))) : after.length < t.length := by
  cases t with
  | nil => cases h
  | cons c rest =>
    rw [recognise] at h
    split at h
    · cases hn : numeric? rest with
      | error e => rw [hn] at h; cases h
      | ok found =>
        rw [hn] at h
        cases found with
        | none => cases h
        | some p =>
          obtain ⟨d, after'⟩ := p
          cases h
          exact Nat.lt_succ_of_le (suffix_of_numeric? hn).length_le
    · cases hn : longestNamed? (c :: rest) with
      | none => rw [hn] at h; cases h
      | some p =>
        obtain ⟨r, after'⟩ := p
        rw [hn] at h
        dsimp only at h
        split at h
        · cases h
        · cases h
          exact Trie.length_lt_of_longest? hn

/-- The text with every character reference replaced by what it stands for. -/
def decode (inAttribute : Bool) : Text → Except NumeralError Text
  | [] => .ok []
  | c :: rest =>
    if c = '&' then
      match _h : recognise inAttribute rest with
      | .error e => .error e
      | .ok none => (decode inAttribute rest).map (c :: ·)
      | .ok (some (s, after)) => (decode inAttribute after).map (s ++ ·)
    else (decode inAttribute rest).map (c :: ·)
termination_by t => t.length
decreasing_by
  · simp
  · have := length_lt_of_recognise _h
    simp only [List.length_cons]
    omega
  · simp

end TokenConformance.Reference
