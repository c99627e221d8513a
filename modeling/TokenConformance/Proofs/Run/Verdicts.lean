import TokenConformance.Proofs.ExceptLaws
import TokenConformance.Run.Execute

/-!
# Verdicts — what running one test comes to

A test can be run if its tokenizer `Answers` it: in each of its states there are tokens or the state is
not supported.  Then there is one result for each state, in order (`runTest_eq_ok_iff`), and the test
`Fails`, is skipped (`Skips`) or `Passes`, of which exactly one holds where there is a state
(`verdict_eq_fail_iff`, `verdict_eq_skip_iff`, `verdict_eq_pass_iff`).
-/

namespace TokenConformance.Run

/-! ### Answers -/

section Defs

variable (options : RunOptions) (tokenizer : Tokenizer) (test : TestCase) (state : TokenizerState)

/-- What the tokenizer's call for a test in a state comes to. -/
def call : Collected := (tokenizer test.input state test.lastStartTag).collect

/-- The tokens that a test gives in a state, unless the call fails. -/
def actual? : Option (List Token) :=
  if (call tokenizer test state).failure? = none then some (call tokenizer test state).tokens
  else none

/-- The tokenizer says that it does not support the state. -/
def Unsupported : Prop :=
  (call tokenizer test state).failure? = some (.tokenizer .notImplemented)

/-- In each state of the test there are tokens or the state is not supported. -/
def Answers : Prop :=
  ∀ state ∈ test.initialStates,
    (actual? tokenizer test state).isSome = true ∨ Unsupported tokenizer test state

/-- How the test comes out in a state, if it can be run there. -/
def stateVerdict : Verdict :=
  match actual? tokenizer test state with
  | some actual => if Token.sameList test.expected actual then .pass else .fail
  | none => .skip

/-- The result of the test in a state, if it can be run there. -/
def stateResult : TestResult :=
  let actual := (actual? tokenizer test state).getD []
  let trace :=
    if (actual? tokenizer test state).isSome && 2 ≤ options.verbosity then
      traceText (call tokenizer test state).events
    else []
  ⟨stateVerdict tokenizer test state, test.description, test.input, state, test.expected, actual,
    trace⟩

/-- The results of the test, one for each state. -/
def results : List TestResult := test.initialStates.map (stateResult options tokenizer test)

/-- How the test comes out, if it can be run. -/
def verdict : Verdict := .ofStates (test.initialStates.map (stateVerdict tokenizer test))

/-- In some state of the test there are tokens other than those expected. -/
def Fails : Prop :=
  ∃ state ∈ test.initialStates, ∃ actual, actual? tokenizer test state = some actual ∧
    Token.sameList test.expected actual = false

/-- No state of the test is supported. -/
def Skips : Prop := ∀ state ∈ test.initialStates, Unsupported tokenizer test state

/-- In some state of the test there are tokens, and wherever there are, they are those expected. -/
def Passes : Prop :=
  (∃ state ∈ test.initialStates, (actual? tokenizer test state).isSome = true) ∧
    ∀ state ∈ test.initialStates, ∀ actual, actual? tokenizer test state = some actual →
      Token.sameList test.expected actual = true

end Defs

variable {options : RunOptions} {tokenizer : Tokenizer} {test : TestCase} {state : TokenizerState}

instance : Decidable (Unsupported tokenizer test state) :=
  inferInstanceAs (Decidable ((call tokenizer test state).failure? = some _))

instance : Decidable (Answers tokenizer test) :=
  inferInstanceAs (Decidable (∀ state ∈ test.initialStates, _ ∨ _))

instance : Decidable (Skips tokenizer test) :=
  inferInstanceAs (Decidable (∀ state ∈ test.initialStates, _))

instance : Decidable (Passes tokenizer test) := inferInstanceAs (Decidable (_ ∧ _))

/-! ### Results -/

theorem isSome_actual?_iff :
    (actual? tokenizer test state).isSome = true ↔ (call tokenizer test state).failure? = none := by
  unfold actual?
  split <;> simp_all

theorem actual?_of_unsupported (h : Unsupported tokenizer test state) :
    actual? tokenizer test state = none := by
  unfold actual?
  rw [h]
  rfl

theorem runState_of_failure?_eq_none (h : (call tokenizer test state).failure? = none) :
    runState options tokenizer test state = .ok (stateResult options tokenizer test state) := by
  have hactual : actual? tokenizer test state = some (call tokenizer test state).tokens := if_pos h
  unfold call at h
  simp [runState, stateResult, stateVerdict, h, hactual, call]

theorem runState_of_unsupported (h : Unsupported tokenizer test state) :
    runState options tokenizer test state = .ok (stateResult options tokenizer test state) := by
  have hactual := actual?_of_unsupported h
  unfold Unsupported call at h
  simp [runState, stateResult, stateVerdict, h, hactual]

theorem runState_of_failure {e : CollectError} (h : (call tokenizer test state).failure? = some e)
    (he : e ≠ .tokenizer .notImplemented) : runState options tokenizer test state = .error e := by
  unfold call at h
  simp only [runState, h]

theorem runState_eq_ok_iff {result : TestResult} :
    runState options tokenizer test state = .ok result ↔
      ((actual? tokenizer test state).isSome = true ∨ Unsupported tokenizer test state) ∧
        result = stateResult options tokenizer test state := by
  rw [isSome_actual?_iff]
  cases hcall : (call tokenizer test state).failure? with
  | none =>
    rw [runState_of_failure?_eq_none hcall, Except.ok.injEq, eq_comm]
    exact ⟨fun h => ⟨.inl rfl, h⟩, And.right⟩
  | some e =>
    by_cases he : e = .tokenizer .notImplemented
    · have hunsupported : Unsupported tokenizer test state := hcall.trans (congrArg some he)
      rw [runState_of_unsupported hunsupported, Except.ok.injEq, eq_comm]
      exact ⟨fun h => ⟨.inr hunsupported, h⟩, And.right⟩
    · rw [runState_of_failure hcall he]
      refine ⟨nofun, ?_⟩
      rintro ⟨h | h, -⟩
      · cases h
      · exact absurd (Option.some.inj (hcall.symm.trans h)) he

/-- **A test can be run exactly if it is answered**, and then there is a result for each state. -/
theorem runTest_eq_ok_iff {found : List TestResult} :
    runTest options tokenizer test = .ok found ↔
      Answers tokenizer test ∧ found = results options tokenizer test := by
  unfold runTest
  constructor
  · intro h
    have hfound : found = results options tokenizer test :=
      Except.eq_map_of_mapM_eq_ok (fun state result h => (runState_eq_ok_iff.1 h).2) h
    refine ⟨?_, hfound⟩
    rw [Except.mapM_eq_ok_iff, hfound, results, List.forall₂_map_right_iff, List.forall₂_same] at h
    exact fun state hstate => (runState_eq_ok_iff.1 (h state hstate)).1
  · rintro ⟨hanswers, rfl⟩
    rw [Except.mapM_eq_ok_iff, results, List.forall₂_map_right_iff, List.forall₂_same]
    exact fun state hstate => runState_eq_ok_iff.2 ⟨hanswers state hstate, rfl⟩

theorem ofStates_results :
    Verdict.ofStates ((results options tokenizer test).map TestResult.verdict) =
      verdict tokenizer test := by
  rw [results, List.map_map]
  rfl

/-! ### The verdict on a test -/

theorem stateVerdict_eq_fail_iff : stateVerdict tokenizer test state = .fail ↔
    ∃ actual, actual? tokenizer test state = some actual ∧
      Token.sameList test.expected actual = false := by
  unfold stateVerdict
  split
  · rename_i actual hactual
    cases hsame : Token.sameList test.expected actual <;> simp [hsame, hactual]
  · rename_i hactual
    simp [hactual]

theorem stateVerdict_eq_skip_iff :
    stateVerdict tokenizer test state = .skip ↔ actual? tokenizer test state = none := by
  unfold stateVerdict
  split
  · rename_i actual hactual
    cases hsame : Token.sameList test.expected actual <;> simp [hactual]
  · rename_i hactual
    simp [hactual]

theorem ofStates_eq_fail_iff {verdicts : List Verdict} :
    Verdict.ofStates verdicts = .fail ↔ .fail ∈ verdicts := by
  have hany : (verdicts.any (· == .fail)) = true ↔ Verdict.fail ∈ verdicts := by simp
  rw [← hany]
  unfold Verdict.ofStates
  split
  · simp_all
  · split <;> simp_all

theorem ofStates_eq_skip_iff {verdicts : List Verdict} :
    Verdict.ofStates verdicts = .skip ↔ ∀ v ∈ verdicts, v = .skip := by
  unfold Verdict.ofStates
  split
  · rename_i hfail
    obtain ⟨v, hv, hfail⟩ := List.any_eq_true.1 hfail
    refine ⟨nofun, fun hskip => ?_⟩
    rw [hskip v hv] at hfail
    cases hfail
  · rename_i hfail
    split
    · rename_i hall
      simpa using hall
    · rename_i hall
      simpa using hall

theorem verdict_eq_fail_iff : verdict tokenizer test = .fail ↔ Fails tokenizer test := by
  simp only [verdict, ofStates_eq_fail_iff, List.mem_map, stateVerdict_eq_fail_iff, Fails]

instance : Decidable (Fails tokenizer test) := decidable_of_iff _ verdict_eq_fail_iff

/-- A test that can be run is skipped exactly if none of its states is supported. -/
theorem verdict_eq_skip_iff (h : Answers tokenizer test) :
    verdict tokenizer test = .skip ↔ Skips tokenizer test := by
  simp only [verdict, ofStates_eq_skip_iff, List.forall_mem_map, stateVerdict_eq_skip_iff, Skips]
  refine forall₂_congr fun state hstate => ⟨fun hnone => ?_, actual?_of_unsupported⟩
  obtain hsome | hunsupported := h state hstate
  · rw [hnone] at hsome
    cases hsome
  · exact hunsupported

/-- A test that can be run passes in all other cases. -/
theorem verdict_eq_pass_iff (h : Answers tokenizer test) :
    verdict tokenizer test = .pass ↔ Passes tokenizer test := by
  constructor
  · intro hpass
    have hfails : ¬ Fails tokenizer test := fun hfails => by
      rw [verdict_eq_fail_iff.2 hfails] at hpass
      cases hpass
    have hskips : ¬ Skips tokenizer test := fun hskips => by
      rw [(verdict_eq_skip_iff h).2 hskips] at hpass
      cases hpass
    refine ⟨?_, fun state hstate actual hactual => ?_⟩
    · by_contra hnone
      exact hskips fun state hstate =>
        (h state hstate).resolve_left fun hsome => hnone ⟨state, hstate, hsome⟩
    · by_contra hsame
      exact hfails ⟨state, hstate, actual, hactual, eq_false_of_ne_true hsame⟩
  · rintro ⟨⟨state, hstate, hsome⟩, hall⟩
    cases hverdict : verdict tokenizer test with
    | pass => rfl
    | fail =>
      obtain ⟨state, hstate, actual, hactual, hdiffers⟩ := verdict_eq_fail_iff.1 hverdict
      rw [hall state hstate actual hactual] at hdiffers
      cases hdiffers
    | skip =>
      have hunsupported := (verdict_eq_skip_iff h).1 hverdict state hstate
      rw [actual?_of_unsupported hunsupported] at hsome
      cases hsome

end TokenConformance.Run
