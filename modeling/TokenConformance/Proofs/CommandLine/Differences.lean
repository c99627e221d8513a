import TokenConformance.CommandLine.Inspect
import TokenConformance.Proofs.Run.Verdicts
import TokenConformance.Proofs.Token.Displayed

/-!
# Differences — what reports show of lists that are not the same

A comparison lists the positions at which both lists have a token and the tokens differ, each once and
in order (`mem_differences_iff`, `pairwise_differences`), and the lengths where they differ
(`compare_eq_mismatch`).  Neither a line of a comparison nor the report of a failure ever shows the same
text on both sides (`different_tokens_shown_apart`).
-/

namespace TokenConformance

open Text (ofString)

/-! ## Definitions -/

section Defs

namespace Inspect

/-- The line for a position at which tokens differ. -/
def differenceLine (index : Nat) (expected actual : Text) : Text :=
  Text.line (ofString "  Token " ++ Text.ofNat index ++ ofString ": expected " ++ expected ++
    ofString ", got " ++ actual)

/-- The line for lengths that differ. -/
def lengthLine (expected actual : Nat) : Text :=
  Text.line (ofString "  Length: expected " ++ Text.ofNat expected ++ ofString ", got " ++
    Text.ofNat actual)

/-- What a comparison says of lists that are not the same: the lines of the positions at which they
differ, and the line of the lengths where these differ. -/
def mismatchText (differing : List (Nat × Token × Token)) (lengths? : Option (Nat × Nat)) : Text :=
  Text.line (ofString "\n!!! MISMATCH !!!") ++ Text.line (ofString "\nDifferences:") ++
    differing.flatMap (fun d => differenceLine d.1 d.2.1.displayRecord d.2.2.displayRecord) ++
    lengths?.toList.flatMap fun lengths => lengthLine lengths.1 lengths.2

end Inspect

/-- The report of a failure, from what stands in it before the tokens and the two lists of them. -/
def failureText (before expected actual : Text) : Text :=
  before ++ ofString "=== EXPECTED TOKENS ===\n" ++ expected ++
    ofString "\n\n=== ACTUAL TOKENS ===\n" ++ actual ++ ofString "\n"

end Defs

/-! ## Positions -/

namespace Inspect

section Positions

variable {expected actual : List Token} {s t : Token}

/-- The positions are those of the pairs that differ. -/
theorem differences_eq_filterMap (index : Nat) : ∀ expected actual : List Token,
    differences index expected actual =
      ((expected.zip actual).zipIdx index).filterMap fun p =>
        if p.1.1.same p.1.2 then none else some (p.2, p.1)
  | [], _ => rfl
  | _ :: _, [] => rfl
  | s :: expected, t :: actual => by
    rw [List.zip_cons_cons, List.zipIdx_cons, List.filterMap_cons, differences,
      differences_eq_filterMap (index + 1)]
    cases s.same t <;> rfl

/-- Exactly the positions that both lists have and where the tokens differ are listed. -/
theorem mem_differences_iff {i : Nat} : (i, s, t) ∈ differences 0 expected actual ↔
    expected[i]? = some s ∧ actual[i]? = some t ∧ s.same t = false := by
  have hpair : (expected.zip actual)[i]? = some (s, t) ↔
      expected[i]? = some s ∧ actual[i]? = some t := List.getElem?_zip_eq_some
  rw [← and_assoc, ← hpair, differences_eq_filterMap, List.mem_filterMap]
  constructor
  · rintro ⟨⟨⟨s', t'⟩, i'⟩, hmem, hsome⟩
    split at hsome
    · cases hsome
    · rename_i hdiff
      cases hsome
      exact ⟨List.mem_zipIdx_iff_getElem?.1 hmem, eq_false_of_ne_true hdiff⟩
  · rintro ⟨hmem, hdiff⟩
    exact ⟨((s, t), i), List.mem_zipIdx_iff_getElem?.2 hmem, if_neg (ne_true_of_eq_false hdiff)⟩

theorem pairwise_differences (index : Nat) (expected actual : List Token) :
    (differences index expected actual).Pairwise fun d d' => d.1 < d'.1 := by
  have hindices : ((expected.zip actual).zipIdx index).Pairwise fun p q => p.2 < q.2 := by
    rw [← List.pairwise_map, List.zipIdx_map_snd]
    exact List.pairwise_lt_range'
  rw [differences_eq_filterMap]
  refine List.Pairwise.filterMap _ (fun p q hlt d hd d' hd' => ?_) hindices
  split at hd <;> cases hd
  split at hd' <;> cases hd'
  exact hlt

end Positions

/-! ## Comparisons -/

section Comparisons

variable {expected actual : List Token} {differing : List (Nat × Token × Token)}
  {lengths? : Option (Nat × Nat)}

theorem text_mismatch : (Comparison.mismatch differing lengths?).text =
    mismatchText differing lengths? := by
  cases lengths? with
  | none => rfl
  | some lengths =>
    rw [mismatchText, Option.toList_some, List.flatMap_singleton]
    rfl

theorem compare_of_same (h : Token.sameList expected actual = true) :
    compare expected actual = .passed := by
  rw [compare, Token.sameList_comm, if_pos h]

theorem compare_of_not_same (h : Token.sameList expected actual = false) :
    compare expected actual = .mismatch (differences 0 expected actual)
      (if expected.length = actual.length then none
        else some (expected.length, actual.length)) := by
  rw [compare, Token.sameList_comm, if_neg (ne_true_of_eq_false h)]

theorem not_same_of_mem_of_compare (h : compare expected actual = .mismatch differing lengths?)
    {d : Nat × Token × Token} (hd : d ∈ differing) : d.2.1.same d.2.2 = false := by
  cases hsame : Token.sameList expected actual with
  | true =>
    rw [compare_of_same hsame] at h
    cases h
  | false =>
    rw [compare_of_not_same hsame] at h
    cases h
    exact (mem_differences_iff.1 hd).2.2

end Comparisons

end Inspect

/-! ## Reports of failures -/

section Failures

variable {options : RunOptions} {tokenizer : Tokenizer} {test : TestCase} {state : TokenizerState}
  {result : TestResult}

/-- The two lists stand at the end of the report. -/
theorem report_of_fail (h : result.verdict = .fail) (verbosity : Nat) :
    ∃ before, result.report verbosity = failureText before
      (Token.recordLines CodePoint.isPrintable result.expected)
      (Token.recordLines CodePoint.isPrintable result.actual) := by
  have hends : ∀ {front : List Text} (s t : Text), front ≠ [] →
      Text.line (Text.join (ofString "\n") (front ++
          [ofString "=== EXPECTED TOKENS ===\n" ++ s ++ ofString "\n",
            ofString "=== ACTUAL TOKENS ===\n" ++ t])) =
        failureText (Text.join (ofString "\n") front ++ ofString "\n") s t := by
    intro front s t hfront
    show Text.line (Text.join [CodePoint.ofChar '\n'] _) = _
    rw [Text.join_append hfront (List.cons_ne_nil _ _)]
    simp [Text.join, failureText, Text.line, ofString]
  rw [TestResult.report, if_neg (not_not_intro h)]
  exact ⟨_, hends _ _ (by simp)⟩

theorem not_same_of_fail (h : Run.runState options tokenizer test state = .ok result)
    (hfail : result.verdict = .fail) : Token.sameList result.expected result.actual = false := by
  obtain ⟨-, rfl⟩ := Run.runState_eq_ok_iff.1 h
  obtain ⟨actual, hactual, hdiff⟩ := Run.stateVerdict_eq_fail_iff.1 hfail
  simp only [Run.stateResult, hactual, Option.getD_some]
  exact hdiff

end Failures

/-- **Different tokens are printed differently**, whatever counts as printable, and so are lists of
them.  So a failure is never reported with the same text for the expected and the actual tokens, and no
line of a comparison has the same text on both sides. -/
theorem different_tokens_shown_apart (printable : CodePoint → Bool) :
    (∀ s t : Token, s.same t = false →
      s.toRecord.displayWith printable ≠ t.toRecord.displayWith printable) ∧
    (∀ ss ts : List Token, Token.sameList ss ts = false →
      Token.recordLines printable ss ≠ Token.recordLines printable ts) ∧
    (∀ options tokenizer test state result verbosity,
      Run.runState options tokenizer test state = .ok result → result.verdict = .fail →
        (∃ before, result.report verbosity = failureText before
          (Token.recordLines CodePoint.isPrintable result.expected)
          (Token.recordLines CodePoint.isPrintable result.actual)) ∧
        Token.recordLines CodePoint.isPrintable result.expected ≠
          Token.recordLines CodePoint.isPrintable result.actual) ∧
    ∀ expected actual differing lengths?,
      Inspect.compare expected actual = .mismatch differing lengths? →
        (Inspect.compare expected actual).text = Inspect.mismatchText differing lengths? ∧
          ∀ d ∈ differing, d.2.1.displayRecord ≠ d.2.2.displayRecord := by
  refine ⟨fun s t => Token.displayWith_toRecord_ne printable,
    fun ss ts => Token.recordLines_ne printable, ?_, ?_⟩
  · intro options tokenizer test state result verbosity hrun hfail
    exact ⟨report_of_fail hfail verbosity, Token.recordLines_ne _ (not_same_of_fail hrun hfail)⟩
  · intro expected actual differing lengths? hcompare
    refine ⟨by rw [hcompare, Inspect.text_mismatch], fun d hd => ?_⟩
    exact Token.displayWith_toRecord_ne _ (Inspect.not_same_of_mem_of_compare hcompare hd)

end TokenConformance
