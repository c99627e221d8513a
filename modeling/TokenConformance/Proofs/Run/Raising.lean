import TokenConformance.Proofs.Run.Executed

/-!
# Raising tests — calls that fail, and what a run makes of them

A test raises the failure of the first of its states in which the call fails otherwise than for want of
support (`runTest_eq_error_iff`), and every test that is not answered does (`not_answers_iff`).  A run
`Clears` the tests that it gets through (`trail_of_clears`), and a selected test that raises behind such
tests breaks it (`trail_of_raises`).
-/

namespace TokenConformance.Run

/-! ### Definitions -/

section Defs

variable (options : RunOptions) (tokenizer : Tokenizer)

/-- In some state of the test the call fails with `e`, which does not say that the state is not
supported; in the states before there are tokens or these are not supported. -/
def Raises (test : TestCase) (e : CollectError) : Prop :=
  ∃ before state after, test.initialStates = before ++ state :: after ∧
    (∀ s ∈ before, (actual? tokenizer test s).isSome = true ∨ Unsupported tokenizer test s) ∧
    (call tokenizer test state).failure? = some e ∧ e ≠ .tokenizer .notImplemented

/-- Nothing stops a run at these tests: the selected ones are answered, and with fail-fast none of them
fails. -/
def Clears (ps : List Placed) : Prop :=
  ∀ p ∈ ps, Selects options p →
    Answers tokenizer p.test ∧ (options.failFast = true → ¬ Fails tokenizer p.test)

/-- The tests that the options select. -/
def selected (ps : List Placed) : List Placed := ps.filter fun p => Selects options p

end Defs

variable {options : RunOptions} {tokenizer : Tokenizer} {test : TestCase} {state : TokenizerState}
  {e : CollectError}

/-! ### Failing calls -/

section Calls

theorem runState_eq_error_iff : runState options tokenizer test state = .error e ↔
    (call tokenizer test state).failure? = some e ∧ e ≠ .tokenizer .notImplemented := by
  constructor
  · intro h
    cases hcall : (call tokenizer test state).failure? with
    | none =>
      rw [runState_of_failure?_eq_none hcall] at h
      cases h
    | some e' =>
      by_cases he : e' = .tokenizer .notImplemented
      · rw [runState_of_unsupported (hcall.trans (congrArg some he))] at h
        cases h
      · rw [runState_of_failure hcall he] at h
        cases h
        exact ⟨rfl, he⟩
  · rintro ⟨hcall, he⟩
    exact runState_of_failure hcall he

theorem exists_runState_iff : (∃ result, runState options tokenizer test state = .ok result) ↔
    (actual? tokenizer test state).isSome = true ∨ Unsupported tokenizer test state := by
  simp only [runState_eq_ok_iff, exists_and_left, exists_eq, and_true]

/-- **A test is broken off with what it raises.** -/
theorem runTest_eq_error_iff :
    runTest options tokenizer test = .error e ↔ Raises tokenizer test e := by
  simp only [runTest, Except.mapM_eq_error_iff_first, exists_runState_iff, runState_eq_error_iff,
    Raises]

theorem not_answers_iff : ¬ Answers tokenizer test ↔ ∃ e, Raises tokenizer test e := by
  cases hrun : runTest .default tokenizer test with
  | ok found =>
    obtain ⟨hanswers, -⟩ := runTest_eq_ok_iff.1 hrun
    refine iff_of_false (not_not_intro hanswers) ?_
    rintro ⟨e, hraises⟩
    rw [runTest_eq_error_iff.2 hraises] at hrun
    cases hrun
  | error e =>
    refine iff_of_true (fun hanswers => ?_) ⟨e, runTest_eq_error_iff.1 hrun⟩
    rw [runTest_eq_ok_iff.2 ⟨hanswers, rfl⟩] at hrun
    cases hrun

end Calls

/-! ### Trails -/

section Trails

variable {p q : Placed} {ps front rest : List Placed}

theorem selected_cons_of_pos (h : Selects options p) :
    selected options (p :: ps) = p :: selected options ps :=
  List.filter_cons_of_pos (decide_eq_true h)

theorem selected_cons_of_neg (h : ¬ Selects options p) :
    selected options (p :: ps) = selected options ps :=
  List.filter_cons_of_neg (ne_true_of_eq_false (decide_eq_false h))

theorem takesTest_of_selects (h : Selects options p) :
    options.takesTest p.name p.index p.test = .ok true := by
  obtain ⟨input, hinput, hselects⟩ := h
  rw [RunOptions.takesTest_str options p.name p.index hinput, decide_eq_true hselects]

theorem turn_of_raises (hselects : Selects options p) (h : Raises tokenizer p.test e) :
    turn options tokenizer p = .error (.call e) := by
  rw [turn, takesTest_of_selects hselects, runTest_eq_error_iff.2 h]

/-- A run executes the selected ones of the tests that it gets through. -/
theorem trail_of_clears (hinputs : ∀ p ∈ ps, ∃ input, p.test.input = .str input)
    (h : Clears options tokenizer ps) :
    trail options tokenizer ps = (selected options ps, none) := by
  induction ps with
  | nil => rfl
  | cons p ps ih =>
    obtain ⟨hinput, hinputs⟩ := List.forall_mem_cons.1 hinputs
    obtain ⟨hp, hps⟩ := List.forall_mem_cons.1 h
    have hturn := turn_eq_ok hinput fun hselects => (hp hselects).1
    by_cases hselects : Selects options p
    · rw [decide_eq_true hselects] at hturn
      have hcut : ¬ cuts options tokenizer p = true := by
        rw [cuts_iff, verdict_eq_fail_iff]
        rintro ⟨hfast, hfails⟩
        exact (hp hselects).2 hfast hfails
      rw [trail_of_kept hturn hcut, ih hinputs hps, selected_cons_of_pos hselects]
    · rw [decide_eq_false hselects] at hturn
      rw [trail_of_left hturn, ih hinputs hps, selected_cons_of_neg hselects]

/-- **A run breaks at a selected test that raises**, when it gets through the tests in front of it. -/
theorem trail_of_raises (hinputs : ∀ p ∈ front, ∃ input, p.test.input = .str input)
    (hfront : Clears options tokenizer front) (hselects : Selects options p)
    (h : Raises tokenizer p.test e) (rest : List Placed) :
    trail options tokenizer (front ++ p :: rest) =
      (selected options front, some (.broken (.call e))) := by
  have htrail := trail_of_clears hinputs hfront
  rw [trail_append_of_none (congrArg Prod.snd htrail), trail_of_error (turn_of_raises hselects h),
    htrail, List.append_nil]

/-- Nothing but a selected test that raises breaks a run. -/
theorem exists_raises_of_trail_eq_broken (hinputs : ∀ p ∈ ps, ∃ input, p.test.input = .str input)
    {reason : RunError} (h : (trail options tokenizer ps).2 = some (.broken reason)) :
    ∃ front p rest e, ps = front ++ p :: rest ∧ Selects options p ∧ Raises tokenizer p.test e ∧
      Clears options tokenizer front ∧ reason = .call e := by
  induction ps with
  | nil => cases h
  | cons p ps ih =>
    obtain ⟨hinput, hinputs⟩ := List.forall_mem_cons.1 hinputs
    by_cases hraises : Selects options p ∧ ¬ Answers tokenizer p.test
    · obtain ⟨hselects, hanswers⟩ := hraises
      obtain ⟨e, hraises⟩ := not_answers_iff.1 hanswers
      rw [trail_of_error (turn_of_raises hselects hraises)] at h
      cases h
      exact ⟨[], p, ps, e, rfl, hselects, hraises, nofun, rfl⟩
    · have hanswers : Selects options p → Answers tokenizer p.test :=
        fun hselects => not_not.1 (not_and.1 hraises hselects)
      have hkept : Selects options p → ¬ cuts options tokenizer p = true := by
        intro hselects hcut
        rw [trail_of_cut (turn_eq_ok_true_iff.2 ⟨takesTest_of_selects hselects, hanswers hselects⟩)
          hcut] at h
        cases h
      have hrest : (trail options tokenizer ps).2 = some (.broken reason) := by
        have hturn := turn_eq_ok hinput hanswers
        by_cases hselects : Selects options p
        · rw [decide_eq_true hselects] at hturn
          rwa [trail_of_kept hturn (hkept hselects)] at h
        · rw [decide_eq_false hselects] at hturn
          rwa [trail_of_left hturn] at h
      obtain ⟨front, q, rest, e, rfl, hq, hqraises, hfront, hreason⟩ := ih hinputs hrest
      refine ⟨p :: front, q, rest, e, rfl, hq, hqraises, ?_, hreason⟩
      refine List.forall_mem_cons.2 ⟨fun hselects => ⟨hanswers hselects, fun hfast hfails => ?_⟩,
        hfront⟩
      exact hkept hselects (cuts_iff.2 ⟨hfast, verdict_eq_fail_iff.2 hfails⟩)

/-- Where a selected test is not answered and fail-fast has not stopped the run in front of it, the
first such test is one that a run gets to. -/
theorem exists_clears_of_not_answers (hselects : Selects options q)
    (h : ¬ Answers tokenizer q.test)
    (hfast : options.failFast = true → ∀ p ∈ front, Selects options p → ¬ Fails tokenizer p.test) :
    ∃ front' p rest', front ++ q :: rest = front' ++ p :: rest' ∧ Selects options p ∧
      (∃ e, Raises tokenizer p.test e) ∧ Clears options tokenizer front' := by
  induction front with
  | nil => exact ⟨[], q, rest, rfl, hselects, not_answers_iff.1 h, nofun⟩
  | cons a front ih =>
    by_cases ha : Selects options a ∧ ¬ Answers tokenizer a.test
    · exact ⟨[], a, front ++ q :: rest, rfl, ha.1, not_answers_iff.1 ha.2, nofun⟩
    · obtain ⟨front', p, rest', hps, hp, hraises, hclears⟩ :=
        ih fun hfailFast r hr => hfast hfailFast r (List.mem_cons_of_mem a hr)
      refine ⟨a :: front', p, rest', congrArg (a :: ·) hps, hp, hraises,
        List.forall_mem_cons.2 ⟨fun hselects => ⟨?_, fun hfailFast => ?_⟩, hclears⟩⟩
      · exact not_not.1 (not_and.1 ha hselects)
      · exact hfast hfailFast a List.mem_cons_self hselects

end Trails

/-! ### Agreeing tokenizers -/

section Agreeing

variable {tokenizer' : Tokenizer}

theorem actual?_congr (h : call tokenizer' test state = call tokenizer test state) :
    actual? tokenizer' test state = actual? tokenizer test state := by
  rw [actual?, actual?, h]

theorem answers_congr
    (h : ∀ state ∈ test.initialStates, call tokenizer' test state = call tokenizer test state) :
    Answers tokenizer' test ↔ Answers tokenizer test := by
  refine forall₂_congr fun state hstate => ?_
  rw [actual?_congr (h state hstate), Unsupported, Unsupported, h state hstate]

theorem verdict_congr
    (h : ∀ state ∈ test.initialStates, call tokenizer' test state = call tokenizer test state) :
    verdict tokenizer' test = verdict tokenizer test := by
  refine congrArg Verdict.ofStates (List.map_congr_left fun state hstate => ?_)
  rw [stateVerdict, stateVerdict, actual?_congr (h state hstate)]

end Agreeing

end TokenConformance.Run
