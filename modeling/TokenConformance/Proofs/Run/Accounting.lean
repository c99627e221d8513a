import Mathlib.Algebra.Ring.Int.Defs
import Mathlib.Algebra.Ring.Nat
import Mathlib.Data.List.Count
import TokenConformance.Proofs.OrderedMapLaws
import TokenConformance.Proofs.Run.Executed
import TokenConformance.Run.Report

/-!
# Accounting — what the results of files say about a run

Each published result of a file is `Consistent`: its total is the number of its tests, and its pattern
has a sign for each of them (`consistent_fileResult`).  The results of all files add up to the counts of
the run exactly if fail-fast did not stop it (`sums_eq_counts_iff`): the file in which the run stops has
its tests counted but no result published (`trail_flatMap`).
-/

namespace TokenConformance

open Text (ofString)

section Defs

/-- The sums of the counts of all files. -/
def FileResults.sums (files : FileResults) : Counts :=
  ⟨(files.entries.map fun entry => entry.2.counts.passed).sum,
    (files.entries.map fun entry => entry.2.counts.failed).sum,
    (files.entries.map fun entry => entry.2.counts.skipped).sum⟩

/-- A file's total is the number of its tests, and its pattern has as many signs of each kind as its
counts say. -/
structure FileResult.Consistent (result : FileResult) : Prop where
  total : result.total = result.verdicts.length
  passed : (result.pattern.count (CodePoint.ofChar '.') : Int) = result.counts.passed
  failed : (result.pattern.count (CodePoint.ofChar 'x') : Int) = result.counts.failed
  skipped : (result.pattern.count (CodePoint.ofChar 's') : Int) = result.counts.skipped

/-- A line shows the pattern of a file between brackets. -/
def ShowsPattern (entry : Text × FileResult) (line : Text) : Prop :=
  entry.2.line entry.1 = .ok line ∧
    ofString " [" ++ entry.2.pattern ++ ofString "]" <:+: line

namespace Run

variable (options : RunOptions) (tokenizer : Tokenizer)

/-- The files in which a test is executed. -/
def tested (files : List LoadedFile) : List LoadedFile :=
  files.filter fun loaded => !(executedIn options tokenizer loaded).isEmpty

/-- The result of a file under its name. -/
def entryOf (loaded : LoadedFile) : Text × FileResult :=
  (loaded.file.relative.toText, fileResult tokenizer (executedIn options tokenizer loaded))

end Run

end Defs

/-! ### One file -/

section File

variable {tokenizer : Tokenizer} {executed : List Placed} {result : FileResult} {name line : Text}

theorem Verdict.symbol_injective : Function.Injective Verdict.symbol := by
  intro v w
  cases v <;> cases w <;> decide

theorem FileResult.count_pattern (result : FileResult) (v : Verdict) :
    result.pattern.count v.symbol = (result.verdicts.map Prod.fst).count v := by
  have hperm : result.pattern.Perm ((result.verdicts.map Prod.fst).map Verdict.symbol) := by
    rw [List.map_map]
    exact (List.mergeSort_perm _ _).map _
  rw [hperm.count_eq, List.count_map_of_injective _ _ Verdict.symbol_injective]

/-- Each verdict is of one of three kinds. -/
theorem Verdict.count_add_count (verdicts : List Verdict) :
    verdicts.count .pass + verdicts.count .fail + verdicts.count .skip = verdicts.length := by
  induction verdicts with
  | nil => rfl
  | cons v verdicts ih => cases v <;> simp <;> omega

theorem Run.consistent_fileResult : (fileResult tokenizer executed).Consistent := by
  have hverdicts : (fileResult tokenizer executed).verdicts.map Prod.fst =
      executed.map fun p => verdict tokenizer p.test := by
    rw [fileResult, List.map_map]
    rfl
  have hcount := FileResult.count_pattern (fileResult tokenizer executed)
  rw [hverdicts] at hcount
  have htotal := Verdict.count_add_count (executed.map fun p => verdict tokenizer p.test)
  refine ⟨?_, congrArg Nat.cast (hcount .pass), congrArg Nat.cast (hcount .fail),
    congrArg Nat.cast (hcount .skip)⟩
  simp only [FileResult.total, fileResult, Counts.of, List.length_map] at htotal ⊢
  omega

theorem FileResult.showsPattern (h : result.line name = .ok line) (hne : result.verdicts ≠ []) :
    ShowsPattern (name, result) line := by
  have hpattern : result.pattern ≠ [] := by
    intro hnil
    have hlength := congrArg List.length hnil
    simp [pattern] at hlength
    exact hne hlength
  have hempty : result.pattern.isEmpty = false := by simp [hpattern]
  have hline : ∃ share skipped, line = name ++ ofString ": " ++ share ++
      (ofString " [" ++ result.pattern ++ ofString "]") ++ skipped := by
    unfold FileResult.line at h
    simp only [hempty, Bool.false_eq_true, if_false] at h
    split at h <;>
    · obtain ⟨share, -, h⟩ := Except.bind_eq_ok_iff.1 h
      split at h <;>
      · obtain ⟨skipped, -, h⟩ := Except.bind_eq_ok_iff.1 h
        cases h
        exact ⟨share, skipped, rfl⟩
  obtain ⟨share, skipped, rfl⟩ := hline
  exact ⟨h, _, skipped, rfl⟩

end File

/-- A detailed summary has a line for each file. -/
theorem lines_of_detailedSummary {files : FileResults} {header text : Text}
    (h : detailedSummary header files = .ok text)
    (hne : ∀ entry ∈ files.entries, entry.2.verdicts ≠ []) :
    ∃ sorted lines, sorted.Perm files.entries ∧ List.Forall₂ ShowsPattern sorted lines ∧
      text = Text.join (ofString "\n") ([header, []] ++ lines) := by
  simp only [detailedSummary, Except.bind_eq_ok_iff, Except.mapError_eq_ok_iff] at h
  obtain ⟨sorted, hsorted, lines, hlines, htext⟩ := h
  cases htext
  have hperm := (Natural.sorted_of_sortBy hsorted).perm
  refine ⟨sorted, lines, hperm, ?_, rfl⟩
  have hshown : List.Forall₂ (fun entry line => entry ∈ sorted ∧ entry.2.line entry.1 = .ok line)
      sorted lines :=
    (List.forall₂_and_left _ _).2 ⟨fun _ => id, Except.mapM_eq_ok_iff.1 hlines⟩
  exact hshown.imp fun entry line hentry =>
    FileResult.showsPattern hentry.2 (hne entry (hperm.subset hentry.1))

/-! ### All files -/

namespace Run

section Files

variable {options : RunOptions} {tokenizer : Tokenizer} {files : List LoadedFile}

/-- Publishing inserts the results of the files in which a test is executed. -/
theorem foldl_publish (files : List LoadedFile) : files.foldl (publish options tokenizer) ∅ =
    OrderedMap.ofList ((tested options tokenizer files).map (entryOf options tokenizer)) := by
  rw [OrderedMap.ofList, List.foldl_map, tested, List.foldl_filter]
  congr 1
  funext files loaded
  unfold publish
  cases (executedIn options tokenizer loaded).isEmpty <;> rfl

/-- Files with pairwise different names are published in order, those without an executed test left
out. -/
theorem entries_foldl_publish
    (h : (files.map fun loaded => loaded.file.relative.toText).Nodup) :
    (files.foldl (publish options tokenizer) ∅).entries =
      (tested options tokenizer files).map (entryOf options tokenizer) := by
  rw [foldl_publish, OrderedMap.entries_ofList]
  -- inserting in a row keeps all results only because their names differ
  rw [List.map_map]
  exact (List.filter_sublist.map _).nodup h

/-- Files without an executed test add nothing to what is executed. -/
theorem flatMap_tested : (tested options tokenizer files).flatMap (executedIn options tokenizer) =
    files.flatMap (executedIn options tokenizer) := by
  induction files with
  | nil => rfl
  | cons loaded files ih =>
    cases hempty : (executedIn options tokenizer loaded).isEmpty with
    | true =>
      rw [tested, List.filter_cons_of_neg (by simp [hempty]), List.flatMap_cons,
        List.isEmpty_iff.1 hempty]
      exact ih
    | false =>
      rw [tested, List.filter_cons_of_pos (by simp [hempty]), List.flatMap_cons,
        List.flatMap_cons, ← ih]
      rfl

theorem sum_count (v : Verdict) :
    (files.map fun loaded =>
      (((executedIn options tokenizer loaded).map fun p => verdict tokenizer p.test).count v :
        Int)).sum =
      ((files.flatMap (executedIn options tokenizer)).map fun p => verdict tokenizer p.test).count v := by
  induction files with
  | nil => rfl
  | cons loaded files ih =>
    rw [List.map_cons, List.sum_cons, ih, List.flatMap_cons, List.map_append, List.count_append,
      Int.natCast_add]

theorem sums_foldl_publish (h : (files.map fun loaded => loaded.file.relative.toText).Nodup) :
    FileResults.sums (files.foldl (publish options tokenizer) ∅) =
      .of ((files.flatMap (executedIn options tokenizer)).map fun p => verdict tokenizer p.test) := by
  rw [← flatMap_tested]
  simp only [FileResults.sums, entries_foldl_publish h, List.map_map, Counts.of, Counts.mk.injEq]
  exact ⟨sum_count .pass, sum_count .fail, sum_count .skip⟩

/-- A run over files has executed the tests of the files that it got through, and of the file in which
it stopped, if it did, those in front of the stop. -/
theorem trail_flatMap (options : RunOptions) (tokenizer : Tokenizer) (files : List LoadedFile) :
    ((trail options tokenizer (files.flatMap LoadedFile.placed)).2 = none ∧
        (trail options tokenizer (files.flatMap LoadedFile.placed)).1 =
          (finished options tokenizer files).flatMap (executedIn options tokenizer)) ∨
      ∃ loaded stop, (trail options tokenizer loaded.placed).2 = some stop ∧
        trail options tokenizer (files.flatMap LoadedFile.placed) =
          ((finished options tokenizer files).flatMap (executedIn options tokenizer) ++
            executedIn options tokenizer loaded, some stop) := by
  induction files with
  | nil => exact .inl ⟨rfl, rfl⟩
  | cons loaded files ih =>
    rw [List.flatMap_cons]
    cases htrail : (trail options tokenizer loaded.placed).2 with
    | some stop =>
      rw [trail_append_of_stop htrail, finished_of_stop htrail]
      exact .inr ⟨loaded, stop, htrail, Prod.ext rfl htrail⟩
    | none =>
      rw [trail_append_of_none htrail, finished_of_none htrail, List.flatMap_cons]
      obtain ⟨hnone, hexecuted⟩ | ⟨loaded', stop, hstop, hexecuted⟩ := ih
      · exact .inl ⟨hnone, by rw [hexecuted]; rfl⟩
      · refine .inr ⟨loaded', stop, hstop, ?_⟩
        rw [hexecuted, List.append_assoc]
        rfl

theorem nodup_names {tree : FileTree} {directory : Path} (hplain : tree.HasPlainNames)
    (h : load options tree directory = .ok files) :
    (files.map fun loaded => loaded.file.relative.toText).Nodup := by
  obtain ⟨found, hfound, hloads⟩ := loads_of_load h
  have hsublist := List.filter_sublist (l := found)
    (p := fun file => decide (options.SelectsFile file.path.fileName))
  have hnames := (hsublist.map fun file => file.relative.toText).nodup
    (Suite.nodup_relative hplain hfound)
  rw [← (hloads.sorted.perm.map fun file => file.relative.toText).nodup_iff, List.map_map] at hnames
  exact hnames

theorem published_names_nodup {tree : FileTree} {directory : Path} (hplain : tree.HasPlainNames)
    (h : load options tree directory = .ok files) :
    ((finished options tokenizer files).map fun loaded => loaded.file.relative.toText).Nodup :=
  (finished_sublist.map _).nodup (nodup_names hplain h)

/-- **The results of all files add up to the counts unless fail-fast stopped the run**: where it did,
the file of the failing test has no published result. -/
theorem sums_eq_counts_iff {tree : FileTree} {directory : Path} (hplain : tree.HasPlainNames)
    (h : (run options tokenizer tree directory).error? = none) :
    FileResults.sums (run options tokenizer tree directory).progress.files =
        (run options tokenizer tree directory).progress.counts ↔
      (options.failFast = true → (run options tokenizer tree directory).progress.counts.failed = 0) := by
  obtain ⟨files, hload⟩ := exists_load_of_unbroken h
  obtain ⟨hadvances, hfiles, herror⟩ := run_spec tokenizer hload
  have hunbroken := herror.1 h
  rw [hfiles, sums_foldl_publish (published_names_nodup hplain hload)]
  obtain ⟨hnone, hexecuted⟩ | ⟨loaded, stop, hstop, htrail⟩ :=
    trail_flatMap options tokenizer files
  · have hstart : options.failFast = true → Progress.start.counts.failed = 0 := fun _ => rfl
    have hzero := failed_of_advances hstart hadvances (cuts_of_trail_eq_none hnone)
    refine iff_of_true ?_ hzero
    rw [hadvances.counts, hexecuted]
    simp [Counts.plus, Progress.start, Counts.of]
  · have hfast : stop = .failFast := by
      cases stop with
      | failFast => rfl
      | broken e => exact absurd (congrArg Prod.snd htrail) (hunbroken e)
    rw [hfast] at hstop
    obtain ⟨p, hp, hcut⟩ := trail_eq_failFast_iff.1 hstop
    obtain ⟨hfailFast, hfail⟩ := cuts_iff.1 hcut
    -- the failing test is counted over the run, but not over the finished files
    have hpos : 0 < ((executedIn options tokenizer loaded).map
        fun p => verdict tokenizer p.test).count .fail :=
      List.count_pos_iff.2 (List.mem_map.2 ⟨p, hp, hfail⟩)
    have hfailed := congrArg Counts.failed hadvances.counts
    simp only [htrail, List.map_append, Counts.plus, Counts.of, List.count_append, Progress.start]
      at hfailed
    refine iff_of_false (fun hsums => ?_) fun hzero => ?_
    · have hsame := congrArg Counts.failed hsums
      simp only [Counts.of] at hsame
      omega
    · have hnone := hzero hfailFast
      omega

/-- Each published result is that of a file that the run got through, with an executed test. -/
theorem exists_of_mem_entries (tokenizer : Tokenizer) {tree : FileTree} {directory : Path}
    (hload : load options tree directory = .ok files) :
    ∀ entry ∈ (run options tokenizer tree directory).progress.files.entries,
      ∃ loaded ∈ finished options tokenizer files, executedIn options tokenizer loaded ≠ [] ∧
        entry = entryOf options tokenizer loaded := by
  obtain ⟨-, hfiles, -⟩ := run_spec tokenizer hload
  rw [hfiles, foldl_publish]
  intro entry hentry
  obtain ⟨loaded, hloaded, rfl⟩ := List.mem_map.1 (OrderedMap.mem_of_mem_entries_ofList hentry)
  obtain ⟨hfinished, hexecuted⟩ := List.mem_filter.1 hloaded
  exact ⟨loaded, hfinished, by simpa using hexecuted, rfl⟩

/-- **What the results of files say about a run that was not broken off**: each agrees with its tests,
a detailed summary shows the pattern of each in one line, and together they have all that was counted
exactly if fail-fast did not stop the run. -/
theorem files_account_for_counts {tree : FileTree} {directory : Path} (hplain : tree.HasPlainNames)
    (h : (run options tokenizer tree directory).error? = none) :
    let progress := (run options tokenizer tree directory).progress
    (∀ entry ∈ progress.files.entries, entry.2.Consistent) ∧
      (∀ header text, detailedSummary header progress.files = .ok text →
        ∃ sorted lines, sorted.Perm progress.files.entries ∧
          List.Forall₂ ShowsPattern sorted lines ∧
          text = Text.join (ofString "\n") ([header, []] ++ lines)) ∧
      (progress.files.sums = progress.counts ↔
        (options.failFast = true → progress.counts.failed = 0)) := by
  obtain ⟨files, hload⟩ := exists_load_of_unbroken h
  have hentries := exists_of_mem_entries tokenizer hload
  refine ⟨fun entry hentry => ?_, fun header text htext => ?_, sums_eq_counts_iff hplain h⟩
  · obtain ⟨loaded, -, -, rfl⟩ := hentries entry hentry
    exact consistent_fileResult
  · refine lines_of_detailedSummary htext fun entry hentry => ?_
    obtain ⟨loaded, -, hne, rfl⟩ := hentries entry hentry
    exact fun hnil => hne (List.map_eq_nil_iff.1 hnil)

/-- Without fail-fast all four tests of the sample count for its one file. -/
theorem files_account_for_counts_sample :
    let options := { sampleOptions with failFast := false }
    let progress := (run options standIn sampleTree sampleDirectory).progress
    sampleTree.HasPlainNames ∧ (run options standIn sampleTree sampleDirectory).error? = none ∧
      (∀ entry ∈ progress.files.entries, entry.2.Consistent) ∧
      progress.files.sums = progress.counts ∧ progress.counts = ⟨1, 2, 1⟩ := by
  intro options progress
  have hplain : sampleTree.HasPlainNames := by decide
  obtain ⟨herror, hcounts⟩ : (run options standIn sampleTree sampleDirectory).error? = none ∧
      progress.counts = ⟨1, 2, 1⟩ := by decide +kernel
  obtain ⟨hconsistent, -, hsums⟩ := files_account_for_counts hplain herror
  exact ⟨hplain, herror, hconsistent, hsums.2 nofun, hcounts⟩

/-- Both tests of the only file expect no tokens where there is a comment. -/
def failingTree : FileTree :=
  ⟨[([ofString "suite", ofString "a.test"],
    ofString "\x7b\"tests\":[\x7b\"input\":\"<!--a-->\",\"output\":[]\x7d," ++
    ofString "\x7b\"input\":\"<!--b-->\",\"output\":[]\x7d]\x7d")], [], []⟩

/-- With fail-fast the tests of the file in which the run stops are counted, but the results of files
have none of them. -/
theorem sums_ne_counts_of_failFast :
    ¬ ∀ (options : RunOptions) (tokenizer : Tokenizer) (tree : FileTree) (directory : Path),
      tree.HasPlainNames → (run options tokenizer tree directory).error? = none →
        (run options tokenizer tree directory).progress.files.sums =
          (run options tokenizer tree directory).progress.counts := by
  intro h
  let options := { RunOptions.default with failFast := true }
  let outcome := run options standIn failingTree sampleDirectory
  have hfailing : outcome.error? = none ∧ outcome.progress.files.sums ≠ outcome.progress.counts := by
    decide +kernel
  exact hfailing.2 (h options standIn failingTree sampleDirectory (by decide) hfailing.1)

end Files

end Run

end TokenConformance
