import TokenConformance.Proofs.Run.Trail

/-!
# Progress — what the loops of a run do

The loop over tests and the loop over files go along the trail of their tests (`runTests_spec`,
`runFiles_spec`): from whatever progress they start, the executed tests are counted and recorded
(`Advances`), and a file that is finished has its result published (`publish`).  A run does so from
the start (`run_spec`).
-/

namespace TokenConformance

/-- The counts of verdicts. -/
def Counts.of (verdicts : List Verdict) : Counts :=
  ⟨verdicts.count .pass, verdicts.count .fail, verdicts.count .skip⟩

/-- Both counts together. -/
def Counts.plus (counts counts' : Counts) : Counts :=
  ⟨counts.passed + counts'.passed, counts.failed + counts'.failed, counts.skipped + counts'.skipped⟩

namespace Run

section Defs

variable (options : RunOptions) (tokenizer : Tokenizer)

/-- The progress once a test has been executed. -/
def recorded (p : Placed) (progress : Progress) : Progress :=
  let found := results options tokenizer p.test
  { progress with
    counts := progress.counts.add (verdict tokenizer p.test)
    results := progress.results ++ found
    output := progress.output ++ failureNotice options p.name p.index found }

/-- From one progress to another some tests have been executed. -/
structure Advances (before after : Progress) (executed : List Placed) : Prop where
  counts : after.counts =
    before.counts.plus (.of (executed.map fun p => verdict tokenizer p.test))
  results : after.results =
    before.results ++ executed.flatMap fun p => results options tokenizer p.test

/-- From one result of a file to another some of its tests have been executed. -/
structure FileAdvances (before after : FileResult) (executed : List Placed) : Prop where
  counts : after.counts =
    before.counts.plus (.of (executed.map fun p => verdict tokenizer p.test))
  verdicts : after.verdicts =
    before.verdicts ++ executed.map fun p => (verdict tokenizer p.test, (p.index : Int))

/-- The result of a file in which some tests have been executed. -/
def fileResult (executed : List Placed) : FileResult :=
  ⟨.of (executed.map fun p => verdict tokenizer p.test),
    executed.map fun p => (verdict tokenizer p.test, (p.index : Int))⟩

/-- The tests of a file that a run executes there, if it gets to the file. -/
def executedIn (loaded : LoadedFile) : List Placed := (trail options tokenizer loaded.placed).1

/-- The files that a run gets through. -/
def finished (files : List LoadedFile) : List LoadedFile :=
  files.takeWhile fun loaded => (trail options tokenizer loaded.placed).2.isNone

/-- The results of files once a file is finished. -/
def publish (files : FileResults) (loaded : LoadedFile) : FileResults :=
  if (executedIn options tokenizer loaded).isEmpty then files
  else
    files.insert loaded.file.relative.toText
      (fileResult tokenizer (executedIn options tokenizer loaded))

end Defs

end Run

/-! ### Counting -/

section Counting

variable {counts : Counts}

theorem Counts.plus_of_nil : counts.plus (.of []) = counts := by
  simp [plus, of]

theorem Counts.plus_of_append {l m : List Verdict} :
    counts.plus (.of (l ++ m)) = (counts.plus (.of l)).plus (.of m) := by
  simp only [plus, of, List.count_append, Counts.mk.injEq]
  omega

theorem Counts.add_eq_plus (v : Verdict) : counts.add v = counts.plus (.of [v]) := by
  cases v <;> simp [add, plus, of]

end Counting

namespace Run

variable {options : RunOptions} {tokenizer : Tokenizer}

/-! ### Advancing -/

section Advances

variable {before between after : Progress} {file file' file'' : FileResult}
  {executed executed' : List Placed}

/-- Printing executes nothing. -/
theorem Advances.print (output : Text) :
    Advances options tokenizer before { before with output } [] :=
  ⟨Counts.plus_of_nil.symm, (List.append_nil _).symm⟩

theorem Advances.trans (h : Advances options tokenizer before between executed)
    (h' : Advances options tokenizer between after executed') :
    Advances options tokenizer before after (executed ++ executed') where
  counts := by rw [h'.counts, h.counts, List.map_append, Counts.plus_of_append]
  results := by rw [h'.results, h.results, List.flatMap_append, List.append_assoc]

theorem Advances.recorded (options : RunOptions) (tokenizer : Tokenizer) (before : Progress)
    (p : Placed) : Advances options tokenizer before (recorded options tokenizer p before) [p] :=
  ⟨Counts.add_eq_plus _, by rw [List.flatMap_singleton]; rfl⟩

theorem FileAdvances.refl : FileAdvances tokenizer file file [] :=
  ⟨Counts.plus_of_nil.symm, (List.append_nil _).symm⟩

theorem FileAdvances.trans (h : FileAdvances tokenizer file file' executed)
    (h' : FileAdvances tokenizer file' file'' executed') :
    FileAdvances tokenizer file file'' (executed ++ executed') where
  counts := by rw [h'.counts, h.counts, List.map_append, Counts.plus_of_append]
  verdicts := by rw [h'.verdicts, h.verdicts, List.map_append, List.append_assoc]

theorem FileAdvances.single (tokenizer : Tokenizer) (file : FileResult) (p : Placed) :
    FileAdvances tokenizer file (file.add (verdict tokenizer p.test) p.index) [p] :=
  ⟨Counts.add_eq_plus _, rfl⟩

end Advances

/-! ### The loops -/

section Loops

variable {name : Text} {index : Nat} {test : TestCase} {tests : List TestCase} {file : FileResult}
  {progress : Progress} {files : List LoadedFile}

theorem row_cons : Placed.row name index (test :: tests) =
    ⟨name, index, test⟩ :: Placed.row name (index + 1) tests := rfl

theorem runTests_of_error (tests : List TestCase) (file : FileResult) (progress : Progress)
    {e : RunError}
    (h : turn options tokenizer ⟨name, index, test⟩ = .error e) :
    ∃ output, runTests options tokenizer name index (test :: tests) file progress =
      (file, { progress with output }, some (.broken e)) := by
  simp only [turn] at h
  split at h
  · rename_i htakes
    cases h
    exact ⟨progress.output, by simp only [runTests, htakes]⟩
  · cases h
  · rename_i htakes
    split at h
    · rename_i hrun
      cases h
      exact ⟨_, by simp only [runTests, htakes, hrun]; rfl⟩
    · cases h

theorem runTests_of_left (h : turn options tokenizer ⟨name, index, test⟩ = .ok false) :
    runTests options tokenizer name index (test :: tests) file progress =
      runTests options tokenizer name (index + 1) tests file progress := by
  simp only [turn] at h
  split at h
  · cases h
  · rename_i htakes
    simp only [runTests, htakes]
  · split at h <;> cases h

/-- Where no test has failed so far, the failure count tells a cut. -/
theorem failed_eq_cuts {p : Placed} (hstart : options.failFast = true → progress.counts.failed = 0) :
    (decide ((recorded options tokenizer p progress).counts.failed ≠ 0) && options.failFast) =
      cuts options tokenizer p := by
  unfold cuts recorded
  cases hfast : options.failFast with
  | false => rw [Bool.and_false, Bool.false_and]
  | true =>
    have hzero := hstart hfast
    cases verdict tokenizer p.test <;> simp [Counts.add, hzero]

/-- Where fail-fast is asked for, tests that do not cut a run leave the failure count at zero. -/
theorem failed_of_advances {after : Progress} {executed : List Placed}
    (hstart : options.failFast = true → progress.counts.failed = 0)
    (h : Advances options tokenizer progress after executed)
    (hcuts : ∀ p ∈ executed, cuts options tokenizer p = false) (hfast : options.failFast = true) :
    after.counts.failed = 0 := by
  have hnone : (executed.map fun p => verdict tokenizer p.test).count .fail = 0 := by
    rw [List.count_eq_zero, List.mem_map]
    rintro ⟨p, hp, hfail⟩
    have hcut := cuts_iff.2 ⟨hfast, hfail⟩
    rw [hcuts p hp] at hcut
    cases hcut
  rw [h.counts]
  simp only [Counts.plus, Counts.of, hnone, hstart hfast]
  rfl

theorem runTests_of_taken (hstart : options.failFast = true → progress.counts.failed = 0)
    (h : turn options tokenizer ⟨name, index, test⟩ = .ok true) :
    runTests options tokenizer name index (test :: tests) file progress =
      if cuts options tokenizer ⟨name, index, test⟩ then
        (file.add (verdict tokenizer test) index,
          recorded options tokenizer ⟨name, index, test⟩ progress, some .failFast)
      else
        runTests options tokenizer name (index + 1) tests (file.add (verdict tokenizer test) index)
          (recorded options tokenizer ⟨name, index, test⟩ progress) := by
  obtain ⟨htakes, hanswers⟩ := turn_eq_ok_true_iff.1 h
  have hrun : runTest options tokenizer test = .ok (results options tokenizer test) :=
    runTest_eq_ok_iff.2 ⟨hanswers, rfl⟩
  rw [← failed_eq_cuts hstart]
  simp only [runTests, htakes, hrun, ofStates_results]
  rfl

/-- **The loop over tests goes along their trail**: the executed tests are counted and recorded, and
nothing else changes but what is printed. -/
theorem runTests_spec (tokenizer : Tokenizer) (name : Text) (index : Nat) (tests : List TestCase)
    (file : FileResult) (hstart : options.failFast = true → progress.counts.failed = 0) :
    ∃ file' after, runTests options tokenizer name index tests file progress =
        (file', after, (trail options tokenizer (Placed.row name index tests)).2) ∧
      FileAdvances tokenizer file file' (trail options tokenizer (Placed.row name index tests)).1 ∧
      Advances options tokenizer progress after
        (trail options tokenizer (Placed.row name index tests)).1 ∧
      after.files = progress.files := by
  -- one case for each way in which the turn of the first test may end; `hstart` is what the loop
  -- keeps, since its check under fail-fast looks at the failures of the run and not at the test
  induction tests generalizing index file progress with
  | nil => exact ⟨file, progress, rfl, .refl, .print _, rfl⟩
  | cons test tests ih =>
    rw [row_cons]
    cases hturn : turn options tokenizer ⟨name, index, test⟩ with
    | error e =>
      obtain ⟨output, hran⟩ := runTests_of_error tests file progress hturn
      rw [hran, trail_of_error hturn]
      exact ⟨_, _, rfl, .refl, .print output, rfl⟩
    | ok taken =>
      cases taken with
      | false =>
        rw [runTests_of_left hturn, trail_of_left hturn]
        exact ih _ _ hstart
      | true =>
        have hfile := FileAdvances.single tokenizer file ⟨name, index, test⟩
        have hstep := Advances.recorded options tokenizer progress ⟨name, index, test⟩
        rw [runTests_of_taken hstart hturn]
        by_cases hcut : cuts options tokenizer ⟨name, index, test⟩ = true
        · rw [if_pos hcut, trail_of_cut hturn hcut]
          exact ⟨_, _, rfl, hfile, hstep, rfl⟩
        · rw [if_neg hcut, trail_of_kept hturn hcut]
          have hnext := failed_of_advances hstart hstep
            (List.forall_mem_singleton.2 (eq_false_of_ne_true hcut))
          obtain ⟨file', after, hran, hrest, hafter, hfiles⟩ := ih _ _ hnext
          exact ⟨file', after, hran, hfile.trans hrest, hstep.trans hafter, hfiles⟩

theorem eq_fileResult {executed : List Placed} (h : FileAdvances tokenizer .empty file executed) :
    file = fileResult tokenizer executed := by
  obtain ⟨counts, verdicts⟩ := file
  obtain ⟨rfl, rfl⟩ := h
  simp [fileResult, FileResult.empty, Counts.plus, Counts.of]

theorem runFiles_of_stop (files : List LoadedFile) {loaded : LoadedFile} {stop : Stop}
    (hstart : options.failFast = true → progress.counts.failed = 0)
    (h : (trail options tokenizer loaded.placed).2 = some stop) :
    ∃ after, runFiles options tokenizer (loaded :: files) progress = (after, some stop) ∧
      Advances options tokenizer progress after (executedIn options tokenizer loaded) ∧
      after.files = progress.files := by
  obtain ⟨result, after, hran, -, hafter, hfiles⟩ := runTests_spec tokenizer
    loaded.file.path.fileName 0 loaded.tests .empty hstart
  rw [← LoadedFile.placed, h] at hran
  refine ⟨after, ?_, hafter, hfiles⟩
  rw [runFiles, hran]

theorem runFiles_of_none (files : List LoadedFile) {loaded : LoadedFile}
    (hstart : options.failFast = true → progress.counts.failed = 0)
    (h : (trail options tokenizer loaded.placed).2 = none) :
    ∃ after, runFiles options tokenizer (loaded :: files) progress =
        runFiles options tokenizer files after ∧
      Advances options tokenizer progress after (executedIn options tokenizer loaded) ∧
      after.files = publish options tokenizer progress.files loaded := by
  obtain ⟨result, after, hran, hresult, hafter, hfiles⟩ := runTests_spec tokenizer
    loaded.file.path.fileName 0 loaded.tests .empty hstart
  rw [← LoadedFile.placed, h] at hran
  rw [runFiles, hran]
  refine ⟨_, rfl, ⟨hafter.counts, hafter.results⟩, ?_⟩
  rw [eq_fileResult hresult, hfiles, publish]
  simp [fileResult, executedIn, LoadedFile.placed]

theorem finished_sublist : (finished options tokenizer files).Sublist files :=
  List.takeWhile_sublist _

theorem finished_of_stop {loaded : LoadedFile} {stop : Stop}
    (h : (trail options tokenizer loaded.placed).2 = some stop) :
    finished options tokenizer (loaded :: files) = [] :=
  List.takeWhile_cons_of_neg (by rw [h]; nofun)

theorem finished_of_none {loaded : LoadedFile}
    (h : (trail options tokenizer loaded.placed).2 = none) :
    finished options tokenizer (loaded :: files) = loaded :: finished options tokenizer files :=
  List.takeWhile_cons_of_pos (by rw [h]; rfl)

/-- **The loop over files goes along the trail of all their tests**, and publishes the results of the
files that it gets through. -/
theorem runFiles_spec (tokenizer : Tokenizer) (files : List LoadedFile)
    (hstart : options.failFast = true → progress.counts.failed = 0) :
    let ran := runFiles options tokenizer files progress
    let trail := trail options tokenizer (files.flatMap LoadedFile.placed)
    Advances options tokenizer progress ran.1 trail.1 ∧ ran.2 = trail.2 ∧
      ran.1.files = (finished options tokenizer files).foldl (publish options tokenizer)
        progress.files := by
  induction files generalizing progress with
  | nil => exact ⟨.print _, rfl, rfl⟩
  | cons loaded files ih =>
    rw [List.flatMap_cons]
    cases htrail : (trail options tokenizer loaded.placed).2 with
    | some stop =>
      obtain ⟨after, hran, hafter, hfiles⟩ := runFiles_of_stop files hstart htrail
      rw [hran, trail_append_of_stop htrail, finished_of_stop htrail]
      exact ⟨hafter, htrail.symm, hfiles⟩
    | none =>
      obtain ⟨after, hran, hafter, hpublish⟩ := runFiles_of_none files hstart htrail
      have hnext := failed_of_advances hstart hafter (cuts_of_trail_eq_none htrail)
      obtain ⟨hrest, hstop, hfiles⟩ := ih hnext
      rw [hran, trail_append_of_none htrail, finished_of_none htrail, List.foldl_cons,
        ← hpublish]
      exact ⟨hafter.trans hrest, hstop, hfiles⟩

/-- **A run that could load its files** executes and publishes what the trail of their tests says, and
is broken off where the trail is. -/
theorem run_spec (tokenizer : Tokenizer) {tree : FileTree} {directory : Path}
    (h : load options tree directory = .ok files) :
    let outcome := run options tokenizer tree directory
    let trail := trail options tokenizer (files.flatMap LoadedFile.placed)
    Advances options tokenizer .start outcome.progress trail.1 ∧
      outcome.progress.files =
        (finished options tokenizer files).foldl (publish options tokenizer) ∅ ∧
      (outcome.error? = none ↔ ∀ e, trail.2 ≠ some (.broken e)) := by
  have hstart : options.failFast = true → Progress.start.counts.failed = 0 := fun _ => rfl
  obtain ⟨hadvances, hstop, hfiles⟩ := runFiles_spec tokenizer files hstart
  rw [run, h]
  dsimp only
  rw [← hstop]
  generalize runFiles options tokenizer files .start = ran at hadvances hfiles ⊢
  obtain ⟨progress, stop?⟩ := ran
  match stop? with
  | none => exact ⟨hadvances, hfiles, fun _ _ => nofun, fun _ => rfl⟩
  | some .failFast => exact ⟨hadvances, hfiles, fun _ _ => nofun, fun _ => rfl⟩
  | some (.broken e) =>
    refine ⟨hadvances, hfiles, fun hnone => ?_, fun hunbroken => absurd rfl (hunbroken e)⟩
    cases hnone

end Loops

end Run

end TokenConformance
