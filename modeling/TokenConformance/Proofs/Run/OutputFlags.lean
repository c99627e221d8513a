import Mathlib.Data.List.Infix
import TokenConformance.CommandLine.Session
import TokenConformance.Proofs.Run.Executed

/-!
# Output and stopping — what the options of a run leave alone

Two runs are compared.  Runs whose options select the same tests and stop for the same reasons have the
same trail (`trail_congr`), however much they print and trace, and so they find the same
(`sameFindings_of_output`).  With fail-fast the trail is a beginning of the one without, and it stops
before the end only at a failing test (`trail_failFast`), so that the exit status is the same
(`exitStatus_of_failFast`).
-/

namespace TokenConformance

/-! ## Definitions -/

section Defs

/-- A result without the trace that may have been recorded for it. -/
def TestResult.untraced (result : TestResult) : TestResult := { result with trace := [] }

/-- Two runs have found the same, or were broken off for the same reason, whatever they printed and
traced. -/
structure SameFindings (outcome outcome' : RunOutcome) : Prop where
  error : outcome.error? = outcome'.error?
  counts : outcome.progress.counts = outcome'.progress.counts
  files : outcome.progress.files = outcome'.progress.files
  results : outcome.progress.results.map TestResult.untraced =
    outcome'.progress.results.map TestResult.untraced

/-- The error that a stop is. -/
def Stop.error? : Stop → Option RunError
  | .failFast => none
  | .broken e => some e

end Defs

namespace Run

variable {options options' : RunOptions} {tokenizer : Tokenizer} {tree : FileTree} {directory : Path}
  {files : List LoadedFile} {ps : List Placed}

/-! ## Trails -/

section Trails

/-- What a test gives in a state depends on no option but for its trace. -/
theorem map_untraced_runState (options options' : RunOptions) (tokenizer : Tokenizer)
    (test : TestCase) (state : TokenizerState) :
    (runState options tokenizer test state).map TestResult.untraced =
      (runState options' tokenizer test state).map TestResult.untraced := by
  cases hcall : (call tokenizer test state).failure? with
  | none =>
    rw [runState_of_failure?_eq_none hcall, runState_of_failure?_eq_none hcall]
    rfl
  | some e =>
    by_cases he : e = .tokenizer .notImplemented
    · have hunsupported : Unsupported tokenizer test state := hcall.trans (congrArg some he)
      rw [runState_of_unsupported hunsupported, runState_of_unsupported hunsupported]
      rfl
    · rw [runState_of_failure hcall he, runState_of_failure hcall he]

theorem map_untraced_runTest (options options' : RunOptions) (tokenizer : Tokenizer)
    (test : TestCase) :
    (runTest options tokenizer test).map (List.map TestResult.untraced) =
      (runTest options' tokenizer test).map (List.map TestResult.untraced) := by
  rw [runTest, runTest, Except.map_mapM, Except.map_mapM]
  simp only [map_untraced_runState options options']

/-- Options that take the same tests give a test the same turn. -/
theorem turn_congr (htakes : options.takesTest = options'.takesTest) :
    turn options tokenizer = turn options' tokenizer := by
  funext p
  have hran := map_untraced_runTest options options' tokenizer p.test
  unfold turn
  rw [htakes]
  split
  · rfl
  · rfl
  · -- the tests end with the same error, or both with results
    cases hrun : runTest options tokenizer p.test with
    | error e =>
      cases hrun' : runTest options' tokenizer p.test with
      | error e' =>
        rw [hrun, hrun'] at hran
        cases hran
        rfl
      | ok found' =>
        rw [hrun, hrun'] at hran
        cases hran
    | ok found =>
      cases hrun' : runTest options' tokenizer p.test with
      | error e' =>
        rw [hrun, hrun'] at hran
        cases hran
      | ok found' => rfl

/-- The trail depends on the turns of tests, and on which of them cut the run. -/
theorem trail_congr (hturn : turn options tokenizer = turn options' tokenizer)
    (hcuts : cuts options tokenizer = cuts options' tokenizer) :
    trail options tokenizer = trail options' tokenizer := by
  funext ps
  induction ps using trail.induct options tokenizer with
  | case1 => rfl
  | case2 p ps e hp =>
    rw [trail_of_error hp, trail_of_error (hturn ▸ hp)]
  | case3 p ps hp ih =>
    rw [trail_of_left hp, trail_of_left (hturn ▸ hp), ih]
  | case4 p ps hp hcut =>
    rw [trail_of_cut hp hcut, trail_of_cut (hturn ▸ hp) (hcuts ▸ hcut)]
  | case5 p ps hp hcut ih =>
    rw [trail_of_kept hp hcut, trail_of_kept (hturn ▸ hp) (hcuts ▸ hcut), ih]

/-- **Fail-fast cuts the trail short at a failing test or not at all**: where nothing breaks the trail
without it, nothing breaks the trail with it either. -/
theorem trail_failFast (hturn : turn options tokenizer = turn options' tokenizer)
    (hcuts : ∀ p, cuts options tokenizer p = false)
    (h : ∀ e, (trail options tokenizer ps).2 ≠ some (.broken e)) :
    (∀ e, (trail options' tokenizer ps).2 ≠ some (.broken e)) ∧
      (trail options' tokenizer ps).1 <+: (trail options tokenizer ps).1 ∧
      ((trail options' tokenizer ps).1 = (trail options tokenizer ps).1 ∨
        ∃ p ∈ (trail options' tokenizer ps).1, cuts options' tokenizer p = true) := by
  induction ps using trail.induct options tokenizer with
  | case1 => exact ⟨fun _ => (Option.some_ne_none _).symm, List.prefix_rfl, .inl rfl⟩
  | case2 p ps e hp =>
    rw [trail_of_error hp] at h
    exact absurd rfl (h e)
  | case3 p ps hp ih =>
    rw [trail_of_left hp] at h ⊢
    rw [trail_of_left (hturn ▸ hp)]
    exact ih h
  | case4 p ps hp hcut =>
    rw [hcuts p] at hcut
    cases hcut
  | case5 p ps hp hcut ih =>
    rw [trail_of_kept hp hcut] at h ⊢
    by_cases hcut' : cuts options' tokenizer p = true
    · rw [trail_of_cut (hturn ▸ hp) hcut']
      have hunbroken : ∀ e, some Stop.failFast ≠ some (.broken e) := by
        intro e he
        cases he
      exact ⟨hunbroken, List.prefix_cons_inj p |>.2 List.nil_prefix,
        .inr ⟨p, List.mem_singleton_self p, hcut'⟩⟩
    · rw [trail_of_kept (hturn ▸ hp) hcut']
      obtain ⟨hunbroken, hbegins, hend⟩ := ih h
      refine ⟨hunbroken, (List.prefix_cons_inj p).2 hbegins, ?_⟩
      rcases hend with hall | ⟨q, hq, hcut''⟩
      · exact .inl (congrArg (p :: ·) hall)
      · exact .inr ⟨q, List.mem_cons_of_mem p hq, hcut''⟩

end Trails

/-! ## Outcomes -/

section Outcomes

/-- The error of a run is what has broken its trail. -/
theorem error?_run (hload : load options tree directory = .ok files) :
    (run options tokenizer tree directory).error? =
      (trail options tokenizer (files.flatMap LoadedFile.placed)).2.bind Stop.error? := by
  have hstart : options.failFast = true → Progress.start.counts.failed = 0 := fun _ => rfl
  obtain ⟨-, hstop, -⟩ := runFiles_spec tokenizer files hstart
  rw [run, hload]
  dsimp only
  rw [← hstop]
  generalize runFiles options tokenizer files .start = ran
  obtain ⟨progress, stop?⟩ := ran
  cases stop? with
  | none => rfl
  | some stop => cases stop <;> rfl

theorem run_of_load_error {e : RunError} (hload : load options tree directory = .error e) :
    run options tokenizer tree directory = ⟨.start, some e⟩ := by
  rw [run, hload]

/-- What files publish depends on the trails of their tests. -/
theorem foldl_publish_congr (htrail : trail options tokenizer = trail options' tokenizer) :
    (finished options tokenizer files).foldl (publish options tokenizer) ∅ =
      (finished options' tokenizer files).foldl (publish options' tokenizer) ∅ := by
  have hpublish : publish options tokenizer = publish options' tokenizer := by
    funext results loaded
    unfold publish executedIn
    rw [htrail]
  unfold finished
  rw [htrail, hpublish]

/-- **Runs along the same trail find the same.** -/
theorem sameFindings_of_trail_eq
    (hload : load options tree directory = load options' tree directory)
    (htrail : trail options tokenizer = trail options' tokenizer) :
    SameFindings (run options tokenizer tree directory) (run options' tokenizer tree directory) := by
  cases hfiles : load options tree directory with
  | error e =>
    rw [run_of_load_error hfiles, run_of_load_error (hload ▸ hfiles)]
    exact ⟨rfl, rfl, rfl, rfl⟩
  | ok files =>
    have hfiles' : load options' tree directory = .ok files := hload ▸ hfiles
    obtain ⟨hadvances, hpublished, -⟩ := run_spec tokenizer hfiles
    obtain ⟨hadvances', hpublished', -⟩ := run_spec tokenizer hfiles'
    constructor
    · rw [error?_run hfiles, error?_run hfiles', htrail]
    · rw [hadvances.counts, hadvances'.counts, htrail]
    · rw [hpublished, hpublished', foldl_publish_congr htrail]
    · rw [hadvances.results, hadvances'.results, htrail, List.map_append, List.map_append,
        List.map_flatMap, List.map_flatMap]
      -- the results of one test differ at most in their traces
      have hresults : ∀ p : Placed,
          (results options tokenizer p.test).map TestResult.untraced =
            (results options' tokenizer p.test).map TestResult.untraced := by
        intro p
        rw [results, results, List.map_map, List.map_map]
        rfl
      simp only [hresults]

/-- No failure is counted exactly if none of the executed tests has failed. -/
theorem failed_eq_zero_iff {after : Progress} {executed : List Placed}
    (h : Advances options tokenizer .start after executed) :
    after.counts.failed = 0 ↔ ∀ p ∈ executed, verdict tokenizer p.test ≠ .fail := by
  have hfailed : after.counts.failed =
      (executed.map fun p => verdict tokenizer p.test).count .fail := by
    rw [h.counts]
    exact Int.zero_add _
  rw [hfailed, Int.natCast_eq_zero, List.count_eq_zero, List.mem_map]
  exact ⟨fun hnot p hp hfail => hnot ⟨p, hp, hfail⟩,
    fun hall ⟨p, hp, hfail⟩ => hall p hp hfail⟩

/-- A run counts upwards from zero, so its exit status is one exactly if a failure was counted. -/
theorem exitStatus_eq_one_iff :
    (run options tokenizer tree directory).progress.counts.exitStatus = 1 ↔
      0 < (run options tokenizer tree directory).progress.counts.failed := by
  have hnonneg : 0 ≤ (run options tokenizer tree directory).progress.counts.failed := by
    cases hfiles : load options tree directory with
    | error e =>
      rw [run_of_load_error hfiles]
      exact Int.le_refl 0
    | ok files =>
      rw [(run_spec tokenizer hfiles).1.counts]
      exact Int.add_nonneg (Int.le_refl 0) (Int.natCast_nonneg _)
  unfold Counts.exitStatus
  split <;> omega

/-- **What fail-fast leaves of a run** that is not broken off without it: a beginning of its results,
and its exit status. -/
theorem exitStatus_of_failFast
    (hload : load options tree directory = load options' tree directory)
    (htakes : options.takesTest = options'.takesTest) (htraced : options.verbosity = options'.verbosity)
    (hfast : options.failFast = false)
    (h : (run options tokenizer tree directory).error? = none) :
    (run options' tokenizer tree directory).error? = none ∧
      (run options' tokenizer tree directory).progress.results <+:
        (run options tokenizer tree directory).progress.results ∧
      (run options' tokenizer tree directory).progress.counts.exitStatus =
        (run options tokenizer tree directory).progress.counts.exitStatus := by
  obtain ⟨files, hfiles⟩ := exists_load_of_unbroken h
  obtain ⟨hadvances, -, herror⟩ := run_spec tokenizer hfiles
  obtain ⟨hadvances', -, herror'⟩ := run_spec tokenizer (hload ▸ hfiles)
  have hcuts : ∀ p, cuts options tokenizer p = false := fun p => by
    rw [cuts, hfast, Bool.false_and]
  obtain ⟨hunbroken, hbegins, hend⟩ :=
    trail_failFast (turn_congr htakes) hcuts (herror.1 h)
  refine ⟨herror'.2 hunbroken, ?_, ?_⟩
  · have hresults : results options tokenizer = results options' tokenizer := by
      funext test
      unfold results stateResult
      rw [htraced]
    rw [hadvances.results, hadvances'.results, hresults]
    exact (List.prefix_append_right_inj _).2 (hbegins.flatMap _)
  · have hfailed : (run options' tokenizer tree directory).progress.counts.failed = 0 ↔
        (run options tokenizer tree directory).progress.counts.failed = 0 := by
      rw [failed_eq_zero_iff hadvances, failed_eq_zero_iff hadvances']
      rcases hend with hall | ⟨p, hp, hcut⟩
      · rw [hall]
      · -- the failing test that stops one run is a test of the other
        have hfail := (cuts_iff.1 hcut).2
        exact iff_of_false (fun hnone => hnone p hp hfail)
          fun hnone => hnone p (hbegins.subset hp) hfail
    exact if_congr hfailed rfl rfl

/-- **Options for output and for stopping do not change what a run finds.**  It finds the same however
much it prints and traces.  Where it is not broken off without fail-fast, it is not with it, its results
are then a beginning of the others, and the exit status, which is one exactly if a failure was counted,
is the same. -/
theorem run_of_output_and_stopping (options : RunOptions) (tokenizer : Tokenizer) (tree : FileTree)
    (directory : Path) :
    (∀ verbosity quiet, SameFindings
      (run { options with verbosity, quiet } tokenizer tree directory)
      (run options tokenizer tree directory)) ∧
    (let whole := run { options with failFast := false } tokenizer tree directory
      let stopped := run { options with failFast := true } tokenizer tree directory
      whole.error? = none →
        stopped.error? = none ∧ stopped.progress.results <+: whole.progress.results ∧
          stopped.progress.counts.exitStatus = whole.progress.counts.exitStatus) ∧
    ((run options tokenizer tree directory).progress.counts.exitStatus = 1 ↔
      0 < (run options tokenizer tree directory).progress.counts.failed) := by
  refine ⟨?_, ?_, exitStatus_eq_one_iff⟩
  · intro verbosity quiet
    exact sameFindings_of_trail_eq rfl (trail_congr (turn_congr rfl) rfl)
  · intro whole stopped hwhole
    exact exitStatus_of_failFast rfl rfl rfl rfl hwhole

end Outcomes

end Run

end TokenConformance
