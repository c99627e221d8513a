import TokenConformance.Proofs.Run.Accounting
import TokenConformance.Proofs.Run.OutputFlags
import TokenConformance.Proofs.Run.Raising

/-!
# Aborted runs — what is left behind by a run that something has broken

A file that cannot be read breaks a run before any test is run (`exists_unreadable`).  Otherwise a run
is broken exactly at the first selected test that raises, unless fail-fast has stopped it before
(`BreaksAt`).  Then it has the results of the tests in front of that one, and those of the files that it
got through (`leavesBehind_of_breaksAt`), which are what every run that finishes has for them.
-/

namespace TokenConformance.Run

open Text (ofString)

/-! ### Definitions -/

section Defs

variable (options : RunOptions) (tokenizer : Tokenizer)

/-- Of the selected files in natural order the first one that cannot be read fails with `e`. -/
def UnreadableFirst (tree : FileTree) (found : List TestFile) (e : LoadError) : Prop :=
  ∃ before file after,
    Natural.SortedBy (fun file => file.path.toText)
      (found.filter fun file => options.SelectsFile file.path.fileName) (before ++ file :: after) ∧
    (∀ file ∈ before, ∃ loaded, Suite.loadFile tree file = .ok loaded) ∧
    Suite.loadFile tree file = .error e

/-- A run over files breaks with `e` at a test: it is selected and raises `e`, and a run gets through
all of the files `earlier` and the tests `before` in the same file. -/
structure BreaksAt (files earlier : List LoadedFile) (before : List Placed) (p : Placed)
    (e : CollectError) : Prop where
  stands : ∃ loaded later after,
    files = earlier ++ loaded :: later ∧ loaded.placed = before ++ p :: after
  selects : Selects options p
  raises : Raises tokenizer p.test e
  clears : Clears options tokenizer (earlier.flatMap LoadedFile.placed ++ before)

/-- The files in which a test is selected. -/
def touched (files : List LoadedFile) : List LoadedFile :=
  files.filter fun loaded => !(selected options loaded.placed).isEmpty

/-- The result of a file of which all selected tests have been executed, under its name. -/
def fullEntry (loaded : LoadedFile) : Text × FileResult :=
  (loaded.file.relative.toText, fileResult tokenizer (selected options loaded.placed))

/-- Two tokenizers are called with the same outcome for all selected tests. -/
def Agree (tokenizer' : Tokenizer) (ps : List Placed) : Prop :=
  ∀ p ∈ selected options ps, ∀ state ∈ p.test.initialStates,
    call tokenizer' p.test state = call tokenizer p.test state

/-- The tokenizer that says of calls which would fail that it does not support their state. -/
def excusing (tokenizer : Tokenizer) : Tokenizer := fun input state lastStartTag =>
  let emission := tokenizer input state lastStartTag
  if emission.collect.failure? = none ∨
      emission.collect.failure? = some (.tokenizer .notImplemented) then emission
  else ⟨[], some .notImplemented⟩

/-- What a run leaves behind that breaks with `e` behind the files `earlier` and the tests `before`: the
results of the selected ones of all tests in front, in each of their states, and the results of those of
the files `earlier` in which a test is selected.  Any run that is not broken off has the same results for
these files, if its tokenizer agrees on their tests; there is such a run where failing calls are
excused. -/
structure LeavesBehind (tree : FileTree) (directory : Path) (earlier : List LoadedFile)
    (before : List Placed) (e : CollectError) : Prop where
  error : (run options tokenizer tree directory).error? = some (.call e)
  results : (run options tokenizer tree directory).progress.results =
    (selected options (earlier.flatMap LoadedFile.placed ++ before)).flatMap fun p =>
      p.test.initialStates.map (stateResult options tokenizer p.test)
  entries : (run options tokenizer tree directory).progress.files.entries =
    (touched options earlier).map (fullEntry options tokenizer)
  asFinished : ∀ tokenizer', Agree options tokenizer tokenizer' (earlier.flatMap LoadedFile.placed) →
    (run options tokenizer' tree directory).error? = none →
      (run options tokenizer tree directory).progress.files.entries <+:
        (run options tokenizer' tree directory).progress.files.entries
  finishes : Agree options tokenizer (excusing tokenizer) (earlier.flatMap LoadedFile.placed) ∧
    (run options (excusing tokenizer) tree directory).error? = none

end Defs

variable {options : RunOptions} {tokenizer tokenizer' : Tokenizer} {tree : FileTree}
  {directory : Path} {found : List TestFile} {files earlier later : List LoadedFile}
  {before front rest : List Placed} {p q : Placed} {e : CollectError}

/-! ### Files that cannot be read -/

section Loading

theorem load_of_sortFiles (hfound : Suite.testFiles tree directory = .ok found)
    {sorted : List TestFile}
    (hsorted : Suite.sortFiles (found.filter fun file => options.SelectsFile file.path.fileName) =
      .ok sorted) :
    load options tree directory = (sorted.mapM (Suite.loadFile tree)).mapError .load := by
  rw [load, hfound]
  show ((Suite.sortFiles (found.filter fun file => options.takesFile file.path.fileName)).mapError
    RunError.order >>= _) = _
  rw [filter_takesFile, hsorted]
  rfl

/-- **A file that cannot be read breaks a run before anything is run.** -/
theorem exists_unreadable (hfound : Suite.testFiles tree directory = .ok found)
    (hcomparable : ∀ file ∈ found, options.SelectsFile file.path.fileName →
      ∀ file' ∈ found, options.SelectsFile file'.path.fileName →
        Natural.Comparable file.path.toText file'.path.toText)
    (h : ∃ file ∈ found, options.SelectsFile file.path.fileName ∧
      ∃ e, Suite.loadFile tree file = .error e) :
    ∃ e, UnreadableFirst options tree found e ∧
      ∀ tokenizer, run options tokenizer tree directory = ⟨.start, some (.load e)⟩ := by
  have hmem : ∀ {file}, file ∈ (found.filter fun file => options.SelectsFile file.path.fileName) ↔
      file ∈ found ∧ options.SelectsFile file.path.fileName := by simp
  obtain ⟨sorted, hsorted⟩ : ∃ sorted, Suite.sortFiles
      (found.filter fun file => options.SelectsFile file.path.fileName) = .ok sorted :=
    Natural.exists_sortBy fun file hfile file' hfile' =>
      hcomparable file (hmem.1 hfile).1 (hmem.1 hfile).2 file' (hmem.1 hfile').1 (hmem.1 hfile').2
  have hload := load_of_sortFiles hfound hsorted
  have horder := Natural.sorted_of_sortBy hsorted
  cases hfiles : sorted.mapM (Suite.loadFile tree) with
  | ok files =>
    obtain ⟨file, hfile, hselects, e, he⟩ := h
    obtain ⟨rfl, hloaded⟩ := Except.map_of_mapM_eq_ok (fun _ _ => Suite.file_of_loadFile) hfiles
    obtain ⟨loaded, hmem', rfl⟩ := List.mem_map.1 (horder.perm.symm.subset (hmem.2 ⟨hfile, hselects⟩))
    rw [hloaded loaded hmem'] at he
    cases he
  | error e =>
    obtain ⟨before, file, after, rfl, hbefore, he⟩ := Except.mapM_eq_error_iff_first.1 hfiles
    refine ⟨e, ⟨before, file, after, horder, hbefore, he⟩, fun tokenizer => run_of_load_error ?_⟩
    rw [hload, hfiles]
    rfl

end Loading

/-! ### Files that a run gets through -/

section Through

theorem placed_of_flatMap_eq (h : files.flatMap LoadedFile.placed = front ++ p :: rest) :
    ∃ earlier loaded later before after, files = earlier ++ loaded :: later ∧
      loaded.placed = before ++ p :: after ∧
      front = earlier.flatMap LoadedFile.placed ++ before := by
  induction files generalizing front with
  | nil => simp at h
  | cons loaded files ih =>
    rw [List.flatMap_cons] at h
    obtain ⟨between, rfl, hrest⟩ | ⟨between, hplaced, hrest⟩ := List.append_eq_append_iff.1 h
    · -- the whole of the first file stands in front
      obtain ⟨earlier, loaded', later, before, after, rfl, hplaced, rfl⟩ := ih hrest
      exact ⟨loaded :: earlier, loaded', later, before, after, rfl, hplaced, by simp⟩
    · cases between with
      | nil =>
        rw [List.append_nil] at hplaced
        obtain ⟨earlier, loaded', later, before, after, rfl, hplaced', hfront⟩ :=
          ih (hrest.symm.trans (List.nil_append _).symm)
        refine ⟨loaded :: earlier, loaded', later, before, after, rfl, hplaced', ?_⟩
        rw [List.flatMap_cons, List.append_assoc, ← hfront, List.append_nil, hplaced]
      | cons a between =>
        cases hrest
        exact ⟨[], loaded, files, front, between, rfl, hplaced, rfl⟩

theorem Clears.of_append (h : Clears options tokenizer (front ++ rest)) :
    Clears options tokenizer front ∧ Clears options tokenizer rest :=
  List.forall_mem_append.1 h

theorem trail_placed_of_clears
    (hinputs : ∀ p ∈ earlier.flatMap LoadedFile.placed, ∃ input, p.test.input = .str input)
    (h : Clears options tokenizer (earlier.flatMap LoadedFile.placed)) :
    ∀ loaded ∈ earlier,
      trail options tokenizer loaded.placed = (selected options loaded.placed, none) := by
  intro loaded hloaded
  have hmem : ∀ p ∈ loaded.placed, p ∈ earlier.flatMap LoadedFile.placed :=
    fun p hp => List.mem_flatMap.2 ⟨loaded, hloaded, hp⟩
  exact trail_of_clears (fun p hp => hinputs p (hmem p hp)) fun p hp => h p (hmem p hp)

/-- **A run publishes the results of the files that it gets through**, in front of all others. -/
theorem entries_of_clears (hplain : tree.HasPlainNames)
    (hload : load options tree directory = .ok (earlier ++ later))
    (hinputs : ∀ p ∈ earlier.flatMap LoadedFile.placed, ∃ input, p.test.input = .str input)
    (h : Clears options tokenizer (earlier.flatMap LoadedFile.placed)) :
    (run options tokenizer tree directory).progress.files.entries =
      (touched options earlier).map (fullEntry options tokenizer) ++
        (tested options tokenizer (finished options tokenizer later)).map
          (entryOf options tokenizer) := by
  have htrail := trail_placed_of_clears hinputs h
  have hexecuted : ∀ loaded ∈ earlier,
      executedIn options tokenizer loaded = selected options loaded.placed :=
    fun loaded hloaded => congrArg Prod.fst (htrail loaded hloaded)
  have hfinished : finished options tokenizer (earlier ++ later) =
      earlier ++ finished options tokenizer later :=
    List.takeWhile_append_of_pos fun loaded hloaded => by rw [htrail loaded hloaded]; rfl
  have htouched : tested options tokenizer earlier = touched options earlier :=
    List.filter_congr fun loaded hloaded => by rw [hexecuted loaded hloaded]
  have hentries : (touched options earlier).map (entryOf options tokenizer) =
      (touched options earlier).map (fullEntry options tokenizer) := by
    refine List.map_congr_left fun loaded hloaded => ?_
    rw [entryOf, hexecuted loaded (List.mem_of_mem_filter hloaded), fullEntry]
  obtain ⟨-, hfiles, -⟩ := run_spec tokenizer hload
  rw [hfiles, entries_foldl_publish (published_names_nodup hplain hload), hfinished, tested,
    List.filter_append, List.map_append, ← hentries, ← htouched]
  rfl

end Through

/-! ### Tests that break a run -/

section Breaking

theorem Agree.clears (hagree : Agree options tokenizer tokenizer' front)
    (h : Clears options tokenizer front) : Clears options tokenizer' front := by
  intro p hp hselects
  have hcall := hagree p (List.mem_filter.2 ⟨hp, decide_eq_true hselects⟩)
  obtain ⟨hanswers, hfails⟩ := h p hp hselects
  rw [← verdict_eq_fail_iff, verdict_congr hcall, verdict_eq_fail_iff]
  exact ⟨(answers_congr hcall).2 hanswers, hfails⟩

theorem Agree.fullEntry_eq {loaded : LoadedFile}
    (hagree : Agree options tokenizer tokenizer' loaded.placed) :
    fullEntry options tokenizer' loaded = fullEntry options tokenizer loaded := by
  have hverdict : ∀ p ∈ selected options loaded.placed,
      verdict tokenizer' p.test = verdict tokenizer p.test :=
    fun p hp => verdict_congr (hagree p hp)
  have hverdicts : (selected options loaded.placed).map (fun p => verdict tokenizer' p.test) =
      (selected options loaded.placed).map fun p => verdict tokenizer p.test :=
    List.map_congr_left hverdict
  have hindexed :
      (selected options loaded.placed).map (fun p => (verdict tokenizer' p.test, (p.index : Int))) =
        (selected options loaded.placed).map fun p => (verdict tokenizer p.test, (p.index : Int)) :=
    List.map_congr_left fun p hp => by rw [hverdict p hp]
  rw [fullEntry, fullEntry, fileResult, fileResult, hverdicts, hindexed]

theorem call_excusing {test : TestCase} {state : TokenizerState}
    (h : (actual? tokenizer test state).isSome = true ∨ Unsupported tokenizer test state) :
    call (excusing tokenizer) test state = call tokenizer test state := by
  rw [isSome_actual?_iff] at h
  exact congrArg Emission.collect (if_pos h)

theorem Clears.agree_excusing (h : Clears options tokenizer front) :
    Agree options tokenizer (excusing tokenizer) front := by
  intro p hp state hstate
  obtain ⟨hp, hselects⟩ := List.mem_filter.1 hp
  exact call_excusing ((h p hp (of_decide_eq_true hselects)).1 state hstate)

theorem answers_excusing (tokenizer : Tokenizer) (test : TestCase) :
    Answers (excusing tokenizer) test := by
  intro state _
  by_cases h : (actual? tokenizer test state).isSome = true ∨ Unsupported tokenizer test state
  · rw [actual?, Unsupported, call_excusing h]
    exact h
  · have hexcused : call (excusing tokenizer) test state =
        Emission.collect ⟨[], some .notImplemented⟩ := by
      rw [isSome_actual?_iff] at h
      exact congrArg Emission.collect (if_neg h)
    rw [Unsupported, hexcused]
    exact .inr rfl

/-- Where failing calls are excused, a run finishes. -/
theorem error?_run_excusing (hload : load options tree directory = .ok files)
    (hinputs : ∀ p ∈ files.flatMap LoadedFile.placed, ∃ input, p.test.input = .str input) :
    (run options (excusing tokenizer) tree directory).error? = none := by
  obtain ⟨-, -, hunbroken⟩ := run_spec (excusing tokenizer) hload
  refine hunbroken.2 fun reason hbroken => ?_
  obtain ⟨front, p, rest, e, -, -, hraises, -⟩ := exists_raises_of_trail_eq_broken hinputs hbroken
  exact not_answers_iff.2 ⟨e, hraises⟩ (answers_excusing tokenizer p.test)

/-- **What a broken run leaves behind.** -/
theorem leavesBehind_of_breaksAt (hplain : tree.HasPlainNames)
    (hload : load options tree directory = .ok files)
    (hinputs : ∀ p ∈ files.flatMap LoadedFile.placed, ∃ input, p.test.input = .str input)
    (h : BreaksAt options tokenizer files earlier before p e) :
    LeavesBehind options tokenizer tree directory earlier before e := by
  obtain ⟨⟨loaded, later, after, rfl, hplaced⟩, hselects, hraises, hclears⟩ := h
  have hps : (earlier ++ loaded :: later).flatMap LoadedFile.placed =
      earlier.flatMap LoadedFile.placed ++ before ++
        p :: (after ++ later.flatMap LoadedFile.placed) := by
    rw [List.flatMap_append, List.flatMap_cons, hplaced, List.append_assoc, List.append_assoc]
    rfl
  have hfront := (List.forall_mem_append.1 (hps ▸ hinputs)).1
  obtain ⟨hearlier, hbefore⟩ := List.forall_mem_append.1 hfront
  obtain ⟨hclearsEarlier, hclearsBefore⟩ := hclears.of_append
  -- the trail of all tests breaks at `p`, and so does that of its own file
  have htrail : trail options tokenizer ((earlier ++ loaded :: later).flatMap LoadedFile.placed) =
      (selected options (earlier.flatMap LoadedFile.placed ++ before), some (.broken (.call e))) := by
    rw [hps]
    exact trail_of_raises hfront hclears hselects hraises _
  have hfile : (trail options tokenizer loaded.placed).2 = some (.broken (.call e)) := by
    rw [hplaced, trail_of_raises hbefore hclearsBefore hselects hraises]
  have hentries : (run options tokenizer tree directory).progress.files.entries =
      (touched options earlier).map (fullEntry options tokenizer) := by
    rw [entries_of_clears hplain hload hearlier hclearsEarlier, finished_of_stop hfile]
    exact List.append_nil _
  obtain ⟨hadvances, -, -⟩ := run_spec tokenizer hload
  refine ⟨?_, ?_, hentries, fun tokenizer' hagree _ => ?_,
    hclearsEarlier.agree_excusing, error?_run_excusing hload hinputs⟩
  · rw [error?_run hload, htrail]
    rfl
  · rw [hadvances.results, htrail]
    rfl
  · have hsame : (touched options earlier).map (fullEntry options tokenizer') =
        (touched options earlier).map (fullEntry options tokenizer) := by
      refine List.map_congr_left fun loaded' hloaded' => Agree.fullEntry_eq fun q hq => hagree q ?_
      obtain ⟨hq, hselects⟩ := List.mem_filter.1 hq
      exact List.mem_filter.2
        ⟨List.mem_flatMap.2 ⟨loaded', List.mem_of_mem_filter hloaded', hq⟩, hselects⟩
    rw [hentries, entries_of_clears hplain hload hearlier (hagree.clears hclearsEarlier), hsame]
    exact List.prefix_append _ _

end Breaking

/-! ### Aborted runs -/

/-- **What an aborted run leaves behind.**  If a selected file cannot be read, a run fails with the error
of the first such file, and nothing has been run.  Otherwise a run is broken off if and only if some
selected test raises and fail-fast has not stopped the run in front of it; then it is broken off by the
first such test, and has the results of all selected tests in front of that one and of all files in front
of its file. -/
theorem aborted_run_leaves_behind (hplain : tree.HasPlainNames)
    (hfound : Suite.testFiles tree directory = .ok found)
    (hcomparable : ∀ file ∈ found, options.SelectsFile file.path.fileName →
      ∀ file' ∈ found, options.SelectsFile file'.path.fileName →
        Natural.Comparable file.path.toText file'.path.toText)
    (hinputs : ∀ file ∈ found, options.SelectsFile file.path.fileName →
      ∀ loaded, Suite.loadFile tree file = .ok loaded →
        ∀ test ∈ loaded.tests, ∃ input, test.input = .str input) :
    ((∃ file ∈ found, options.SelectsFile file.path.fileName ∧
        ∃ e, Suite.loadFile tree file = .error e) →
      ∃ e, UnreadableFirst options tree found e ∧
        ∀ tokenizer, run options tokenizer tree directory = ⟨.start, some (.load e)⟩) ∧
    ((∀ file ∈ found, options.SelectsFile file.path.fileName →
        ∃ loaded, Suite.loadFile tree file = .ok loaded) →
      ∃ files, load options tree directory = .ok files ∧ Loads options tree found files ∧
        ∀ tokenizer,
          (∀ front q rest, files.flatMap LoadedFile.placed = front ++ q :: rest →
            Selects options q → ¬ Answers tokenizer q.test →
            (options.failFast = true → ∀ p ∈ front, Selects options p → ¬ Fails tokenizer p.test) →
              ∃ earlier before p e, BreaksAt options tokenizer files earlier before p e) ∧
          (∀ earlier before p e, BreaksAt options tokenizer files earlier before p e →
            LeavesBehind options tokenizer tree directory earlier before e) ∧
          ((run options tokenizer tree directory).error? ≠ none →
            ∃ earlier before p e, BreaksAt options tokenizer files earlier before p e)) := by
  refine ⟨exists_unreadable hfound hcomparable, fun hreadable => ?_⟩
  obtain ⟨files, hload, hloads⟩ := exists_load hfound hreadable hcomparable
  have hplaced : ∀ p ∈ files.flatMap LoadedFile.placed, ∃ input, p.test.input = .str input := by
    intro p hp
    obtain ⟨loaded, hmem, hselects, hloaded, hp⟩ := hloads.exists_loadFile hp
    exact hinputs loaded.file hmem hselects loaded hloaded p.test (mem_placed hp)
  have hbreaks : ∀ {tokenizer front p rest e}, files.flatMap LoadedFile.placed = front ++ p :: rest →
      Selects options p → Raises tokenizer p.test e → Clears options tokenizer front →
        ∃ earlier before p e, BreaksAt options tokenizer files earlier before p e := by
    intro tokenizer front p rest e hps hselects hraises hclears
    obtain ⟨earlier, loaded, later, before, after, hfiles, hloaded, rfl⟩ := placed_of_flatMap_eq hps
    exact ⟨earlier, before, p, e, ⟨loaded, later, after, hfiles, hloaded⟩, hselects, hraises, hclears⟩
  refine ⟨files, hload, hloads, fun tokenizer => ⟨?_, ?_, fun herror => ?_⟩⟩
  · intro front q rest hps hselects hanswers hfast
    obtain ⟨front', p, rest', hps', hselects', ⟨e, hraises⟩, hclears⟩ :=
      exists_clears_of_not_answers hselects hanswers hfast
    exact hbreaks (hps.trans hps') hselects' hraises hclears
  · exact fun earlier before p e => leavesBehind_of_breaksAt hplain hload hplaced
  · obtain ⟨-, -, hunbroken⟩ := run_spec tokenizer hload
    obtain ⟨reason, hbroken⟩ := not_forall_not.1 (mt hunbroken.2 herror)
    obtain ⟨front, p, rest, e, hps, hselects, hraises, hclears, -⟩ :=
      exists_raises_of_trail_eq_broken hplaced hbroken
    exact hbreaks hps hselects hraises hclears

/-- Of three files the second has a test whose call fails in the second of its states, and the third
cannot be read. -/
def abortedTree : FileTree :=
  ⟨[([ofString "suite", ofString "a.test"],
      ofString "\x7b\"tests\":[\x7b\"input\":\"<!--a-->\",\"output\":[[\"Comment\",\"a\"]]\x7d]\x7d"),
    ([ofString "suite", ofString "b.test"],
      ofString "\x7b\"tests\":[\x7b\"input\":\"<!--b-->\",\"output\":[]\x7d," ++
      ofString "\x7b\"input\":\"<!--c-->\",\"output\":[]," ++
      ofString "\"initialStates\":[\"Data state\",\"RCDATA state\"]\x7d]\x7d"),
    ([ofString "suite", ofString "c.test"], ofString "?")], [], []⟩

def abortedFile (name : String) : TestFile := Suite.fileAt sampleDirectory [ofString name]

def abortedFound : List TestFile :=
  [abortedFile "a.test", abortedFile "b.test", abortedFile "c.test"]

/-- The tokenizer that breaks down in one state, behind a comment. -/
def crashing : Tokenizer := fun input state lastStartTag =>
  if state = .rcdata then ⟨[.comment (ofString "c")], some .crashed⟩
  else standIn input state lastStartTag

/-- The options that leave the unreadable file out. -/
def abortedOptions : RunOptions :=
  { RunOptions.default with excludeFiles := some [ofString "c."] }

theorem comparable_aborted : ∀ file ∈ abortedFound, ∀ file' ∈ abortedFound,
    Natural.Comparable file.path.toText file'.path.toText := by
  decide +kernel

/-- The files that can be read stand in natural order. -/
theorem sortFiles_aborted : Suite.sortFiles (abortedFound.filter fun file =>
    abortedOptions.SelectsFile file.path.fileName) = .ok (abortedFound.take 2) := by
  have hselected : (abortedFound.filter fun file =>
      abortedOptions.SelectsFile file.path.fileName) = abortedFound.take 2 := by decide +kernel
  obtain ⟨k, hk, l, hl, hle⟩ : ∃ k, Natural.key (abortedFile "a.test").path.toText = .ok k ∧
      ∃ l, Natural.key (abortedFile "b.test").path.toText = .ok l ∧
        (Natural.compareKeys k l).isLE = true := by decide +kernel
  rw [hselected]
  exact Natural.sortBy_of_pairwise (fun file hfile file' hfile' =>
    comparable_aborted file (List.mem_of_mem_take hfile) file' (List.mem_of_mem_take hfile'))
    (List.pairwise_pair.2 ⟨k, l, hk, hl, hle⟩)

/-- Two results are there when the run breaks, and the result of the first file. -/
theorem load_aborted : ∃ files, load abortedOptions abortedTree sampleDirectory = .ok files ∧
    ((trail abortedOptions crashing (files.flatMap LoadedFile.placed)).2.bind
      Stop.error?).isSome = true ∧
    ((trail abortedOptions crashing (files.flatMap LoadedFile.placed)).1.flatMap fun p =>
      results abortedOptions crashing p.test).length = 2 ∧
    ((finished abortedOptions crashing files).foldl (publish abortedOptions crashing)
      ∅).entries.map Prod.fst = [ofString "a.test"] := by
  have hfound : Suite.testFiles abortedTree sampleDirectory = .ok abortedFound := rfl
  rw [load_of_sortFiles hfound sortFiles_aborted]
  decide +kernel

/-- With the third file the run fails on it, and without it the run breaks at the last test: two results
are left, and the result of the first file. -/
theorem aborted_run_leaves_behind_sample :
    abortedTree.HasPlainNames ∧ Suite.testFiles abortedTree sampleDirectory = .ok abortedFound ∧
      (∃ e, UnreadableFirst .default abortedTree abortedFound e ∧
        ∀ tokenizer, run .default tokenizer abortedTree sampleDirectory = ⟨.start, some (.load e)⟩) ∧
      (∃ files earlier before p e, load abortedOptions abortedTree sampleDirectory = .ok files ∧
        BreaksAt abortedOptions crashing files earlier before p e ∧
        LeavesBehind abortedOptions crashing abortedTree sampleDirectory earlier before e) ∧
      let progress := (run abortedOptions crashing abortedTree sampleDirectory).progress
      progress.results.length = 2 ∧ progress.files.entries.map Prod.fst = [ofString "a.test"] := by
  have hplain : abortedTree.HasPlainNames := by decide
  have hfound : Suite.testFiles abortedTree sampleDirectory = .ok abortedFound := rfl
  have hinputs : ∀ file ∈ abortedFound, ∀ loaded, Suite.loadFile abortedTree file = .ok loaded →
      ∀ test ∈ loaded.tests, ∃ input, test.input = .str input := by decide +kernel
  have hreadable : ∀ file ∈ abortedFound, abortedOptions.SelectsFile file.path.fileName →
      ∃ loaded, Suite.loadFile abortedTree file = .ok loaded ∧ loaded.tests ≠ [] := by decide +kernel
  have hunreadable : ∀ loaded, Suite.loadFile abortedTree (abortedFile "c.test") = .ok loaded →
      False := by decide +kernel
  obtain ⟨hunread, -⟩ := @aborted_run_leaves_behind .default _ _ _ hplain hfound
    (fun file hfile _ file' hfile' _ => comparable_aborted file hfile file' hfile')
    (fun file hfile _ => hinputs file hfile)
  obtain ⟨-, hreads⟩ := @aborted_run_leaves_behind abortedOptions _ _ _ hplain hfound
    (fun file hfile _ file' hfile' _ => comparable_aborted file hfile file' hfile')
    (fun file hfile _ => hinputs file hfile)
  obtain ⟨files, hload, -, hruns⟩ := hreads fun file hfile hselects =>
    (hreadable file hfile hselects).imp fun _ => And.left
  obtain ⟨-, hleaves, hbreaks⟩ := hruns crashing
  obtain ⟨files', hload', hbroken, hresults, hentries⟩ := load_aborted
  obtain rfl : files = files' := Except.ok.inj (hload.symm.trans hload')
  rw [← error?_run hload] at hbroken
  obtain ⟨earlier, before, p, e, hbreaksAt⟩ := hbreaks (Option.isSome_iff_ne_none.1 hbroken)
  obtain ⟨hadvances, hpublished, -⟩ := run_spec crashing hload
  refine ⟨hplain, hfound, hunread ⟨abortedFile "c.test", by decide, by decide, ?_⟩,
    ⟨files, earlier, before, p, e, hload, hbreaksAt, hleaves earlier before p e hbreaksAt⟩,
    by rw [hadvances.results]; exact hresults, by rw [hpublished]; exact hentries⟩
  cases hloaded : Suite.loadFile abortedTree (abortedFile "c.test") with
  | ok loaded => exact absurd hloaded (hunreadable loaded)
  | error e => exact ⟨e, rfl⟩

end TokenConformance.Run
