import TokenConformance.Proofs.CommandLine.SummaryFile
import TokenConformance.Proofs.Number.Quotients
import TokenConformance.Proofs.Run.SummaryOrder

/-!
# Reports — when a run that was not broken off is summarized

Of counts that can be written there is a percentage, so nothing but the order of the names and the text
of the summary file can stop a summary (`summarize_cases`).  The names have been put in order once, behind
the path of the test directory.  They can be put in order again unless one of them begins with digits of
another script, which are read as a number where nothing stands in front of them.  So a run is reported
except for such names (`reported_unless_beginsForeign`), and for them it need not be
(`not_reported_of_beginsForeign`).
-/

namespace TokenConformance

open Natural (BeginsForeign Comparable)
open Run
open Text (ofString)

/-! ## Definitions -/

section Defs

/-- No count is negative, and their sum is small enough to be written. -/
structure Counts.Writable (counts : Counts) : Prop where
  passed : 0 ≤ counts.passed
  failed : 0 ≤ counts.failed
  skipped : 0 ≤ counts.skipped
  total : Numeral.isWritable counts.total = true

/-- The run that a session makes has a summary, which is printed behind what the run has printed, and
the session ends with the status of its counts. -/
def Reported (options : RunOptions) (tokenizer : Tokenizer) (tree : FileTree) (directory : Path) :
    Prop :=
  let progress := (run options tokenizer tree directory).progress
  ∃ summary, summarize options progress.counts progress.files = .ok summary ∧
    runAndSummarize options tokenizer tree directory =
      ⟨.ok progress.counts.exitStatus, progress.output ++ summary.printed, summary.file⟩

end Defs

/-! ## Numbers in a summary -/

section Numbers

variable {part total n : Int} {counts : Counts}

theorem exists_percentage (hpart : 0 ≤ part) (hle : part ≤ total) :
    ∃ share, percentage part total = .ok share := by
  by_cases htotal : total = 0
  · exact ⟨0, if_pos htotal⟩
  · obtain ⟨share, hshare⟩ : ∃ share, (Binary64.ofQuotient (part * 100) total).round? = some share :=
      Binary64.exists_round?_ofQuotient (by omega)
    exact ⟨share, by rw [percentage, if_neg htotal, hshare]⟩

theorem isWritable_of_le (hn : 0 ≤ n) (hle : n ≤ total) (h : Numeral.isWritable total = true) :
    Numeral.isWritable n = true := by
  rw [Numeral.isWritable, decide_eq_true_iff] at h ⊢
  omega

theorem summaryNumeral_of_isWritable (h : Numeral.isWritable n = true) :
    summaryNumeral n = .ok (.ofInt n) :=
  if_pos h

theorem exists_shareText (hpart : 0 ≤ part) (hle : part ≤ total)
    (htotal : Numeral.isWritable total = true) : ∃ t, shareText part total = .ok t := by
  obtain ⟨share, hshare⟩ := exists_percentage hpart hle
  rw [shareText, hshare, summaryNumeral_of_isWritable (isWritable_of_le hpart hle htotal),
    summaryNumeral_of_isWritable htotal]
  exact ⟨_, rfl⟩

theorem exists_skippedText (h : Numeral.isWritable n = true) : ∃ t, skippedText n = .ok t := by
  rw [skippedText, summaryNumeral_of_isWritable h]
  exact ⟨_, rfl⟩

theorem Counts.Writable.isWritable_runnable (h : counts.Writable) :
    Numeral.isWritable (counts.passed + counts.failed) = true := by
  obtain ⟨hpassed, hfailed, hskipped, htotal⟩ := h
  exact isWritable_of_le (by omega) (by rw [Counts.total]; omega) htotal

theorem Counts.Writable.isWritable_skipped (h : counts.Writable) :
    Numeral.isWritable counts.skipped = true := by
  obtain ⟨hpassed, hfailed, hskipped, htotal⟩ := h
  exact isWritable_of_le hskipped (by rw [Counts.total]; omega) htotal

theorem Counts.Writable.exists_shareText (h : counts.Writable) :
    ∃ t, shareText counts.passed (counts.passed + counts.failed) = .ok t :=
  TokenConformance.exists_shareText h.passed (Int.le_add_of_nonneg_right h.failed)
    h.isWritable_runnable

theorem Counts.Writable.exists_header (h : counts.Writable) : ∃ header, counts.header = .ok header := by
  obtain ⟨share, hshare⟩ := h.exists_shareText
  obtain ⟨skipped, hskipped⟩ := exists_skippedText h.isWritable_skipped
  rw [Counts.header, hshare, hskipped]
  exact ⟨_, rfl⟩

theorem FileResult.exists_line {result : FileResult} (h : result.counts.Writable) (name : Text) :
    ∃ line, result.line name = .ok line := by
  obtain ⟨share, hshare⟩ := h.exists_shareText
  obtain ⟨skipped, hskipped⟩ := exists_skippedText h.isWritable_skipped
  simp only [FileResult.line, hshare, hskipped]
  split <;> split <;> exact ⟨_, rfl⟩

/-- Counts of verdicts add up to the number of verdicts. -/
theorem Counts.total_of (verdicts : List Verdict) : (Counts.of verdicts).total = verdicts.length := by
  rw [← Verdict.count_add_count]
  simp [Counts.total, Counts.of]

theorem Counts.writable_of {verdicts : List Verdict}
    (h : Numeral.isWritable (verdicts.length : Int) = true) : (Counts.of verdicts).Writable :=
  ⟨Int.natCast_nonneg _, Int.natCast_nonneg _, Int.natCast_nonneg _, by rwa [Counts.total_of]⟩

end Numbers

/-! ## Summaries -/

section Summaries

variable {options : RunOptions} {counts : Counts} {results : FileResults} {header : Text}

theorem exists_detailedSummary {sorted : List (Text × FileResult)} (header : Text)
    (hresults : ∀ entry ∈ results.entries, entry.2.counts.Writable)
    (h : Natural.sortBy Prod.fst results.entries = .ok sorted) :
    ∃ detailed, detailedSummary header results = .ok detailed := by
  have hperm := (Natural.sorted_of_sortBy h).perm
  obtain ⟨lines, hlines⟩ : ∃ lines,
      (sorted.mapM fun entry : Text × FileResult => entry.2.line entry.1) = .ok lines :=
    Except.exists_mapM_eq_ok fun entry hentry =>
      FileResult.exists_line (hresults entry (hperm.subset hentry)) entry.1
  exact ⟨_, by rw [detailedSummary_of_sortBy header h, hlines]; rfl⟩

theorem detailedSummary_of_error {e : NaturalError} (header : Text)
    (h : Natural.sortBy Prod.fst results.entries = .error e) :
    detailedSummary header results = .error (.order e) := by
  rw [detailedSummary, h]
  rfl

theorem comparable_of_detailedSummary {detailed : Text}
    (h : detailedSummary header results = .ok detailed) :
    ∀ name ∈ results.keys, ∀ name' ∈ results.keys, Comparable name name' := by
  simp only [detailedSummary, Except.bind_eq_ok_iff, Except.mapError_eq_ok_iff] at h
  obtain ⟨sorted, hsorted, -⟩ := h
  intro name hname name' hname'
  obtain ⟨entry, hentry, rfl⟩ := List.mem_map.1 hname
  obtain ⟨entry', hentry', rfl⟩ := List.mem_map.1 hname'
  exact Natural.comparable_of_sortBy hsorted entry hentry entry' hentry'

/-- Names with which there is a summary can be compared. -/
theorem comparable_of_summarize {summary : Summary}
    (h : summarize options counts results = .ok summary) :
    ∀ name ∈ results.keys, ∀ name' ∈ results.keys, Comparable name name' := by
  obtain ⟨header, -, h⟩ := Except.bind_eq_ok_iff.1 h
  dsimp only at h
  split at h
  · rename_i hempty
    rw [OrderedMap.keys, List.isEmpty_iff.1 hempty]
    intro name hname
    cases hname
  · obtain ⟨detailed, hdetailed, -⟩ := Except.bind_eq_ok_iff.1 h
    exact comparable_of_detailedSummary hdetailed

/-- A summary in words is written unless the summary file cannot hold it. -/
theorem summarize_of_detailed {detailed : Text} (hheader : counts.header = .ok header)
    (hdetailed : (if results.entries.isEmpty then .ok header else detailedSummary header results) =
      .ok detailed) :
    (∃ summary, summarize options counts results = .ok summary) ∨
      summarize options counts results = .error .encoding := by
  have hsummary : summarize options counts results =
      if options.isFullRun && !detailed.isEncodable then .error .encoding
      else .ok ⟨Text.line (if options.quiet then header else detailed),
        if options.isFullRun then some detailed else none⟩ := by
    rw [summarize, hheader]
    dsimp only [bind, Except.bind]
    split at hdetailed
    · rename_i hempty
      cases hdetailed
      rw [if_pos hempty]
      rfl
    · rename_i hsome
      rw [if_neg hsome, hdetailed]
      rfl
  rw [hsummary]
  split
  · exact .inr rfl
  · exact .inl ⟨_, rfl⟩

/-- **With counts that can be written, a summary fails on the order of names or on its encoding.** -/
theorem summarize_cases (options : RunOptions) (hcounts : counts.Writable)
    (hresults : ∀ entry ∈ results.entries, entry.2.counts.Writable) :
    (∃ summary, summarize options counts results = .ok summary) ∨
      summarize options counts results = .error .encoding ∨
      ∃ e, Natural.sortBy Prod.fst results.entries = .error e ∧
        summarize options counts results = .error (.order e) := by
  obtain ⟨header, hheader⟩ := hcounts.exists_header
  by_cases hempty : results.entries.isEmpty = true
  · exact (summarize_of_detailed hheader (if_pos hempty)).imp_right .inl
  · cases hsorted : Natural.sortBy Prod.fst results.entries with
    | ok sorted =>
      obtain ⟨detailed, hdetailed⟩ := exists_detailedSummary header hresults hsorted
      exact (summarize_of_detailed hheader ((if_neg hempty).trans hdetailed)).imp_right .inl
    | error e =>
      refine .inr (.inr ⟨e, rfl, ?_⟩)
      rw [summarize, hheader]
      dsimp only [bind, Except.bind]
      rw [if_neg hempty, detailedSummary_of_error header hsorted]

end Summaries

/-! ## Runs -/

section Runs

variable {options : RunOptions} {tokenizer : Tokenizer} {tree : FileTree} {t : Text}
  {directory : Path} {files : List LoadedFile}

theorem counts_of_load (tokenizer : Tokenizer) (h : load options tree directory = .ok files) :
    (run options tokenizer tree directory).progress.counts =
      .of ((trail options tokenizer (files.flatMap LoadedFile.placed)).1.map fun p =>
        verdict tokenizer p.test) := by
  rw [(run_spec tokenizer h).1.counts]
  simp [Counts.plus, Progress.start, Counts.of]

/-- What is executed in a file that a run gets through is part of what the run executes. -/
theorem executedIn_sublist {loaded : LoadedFile}
    (h : loaded ∈ finished options tokenizer files) :
    (executedIn options tokenizer loaded).Sublist
      (trail options tokenizer (files.flatMap LoadedFile.placed)).1 := by
  have hsublist : (executedIn options tokenizer loaded).Sublist
      ((finished options tokenizer files).flatMap (executedIn options tokenizer)) :=
    List.sublist_flatten_of_mem (List.mem_map_of_mem h)
  obtain ⟨-, hexecuted⟩ | ⟨loaded', stop, -, htrail⟩ := trail_flatMap options tokenizer files
  · rwa [hexecuted]
  · rw [htrail]
    exact hsublist.trans (List.sublist_append_left _ _)

/-- If the tests of a run are few enough for their number to be written, so are those of each file. -/
theorem writable_of_load (h : load options tree directory = .ok files)
    (hcounts : Numeral.isWritable
      (run options tokenizer tree directory).progress.counts.total = true) :
    (run options tokenizer tree directory).progress.counts.Writable ∧
      ∀ entry ∈ (run options tokenizer tree directory).progress.files.entries,
        entry.2.counts.Writable := by
  rw [counts_of_load tokenizer h, Counts.total_of] at hcounts
  refine ⟨counts_of_load tokenizer h ▸ Counts.writable_of hcounts, fun entry hentry => ?_⟩
  obtain ⟨loaded, hfinished, -, rfl⟩ := exists_of_mem_entries tokenizer h entry hentry
  refine Counts.writable_of (isWritable_of_le (Int.natCast_nonneg _) ?_ hcounts)
  have hlength := (executedIn_sublist hfinished).length_le
  rw [List.length_map, List.length_map]
  exact Int.ofNat_le.2 hlength

/-- Names of results that do not begin with foreign digits can be compared. -/
theorem comparable_names (h : load options tree (.ofText t) = .ok files) :
    let results := (run options tokenizer tree (.ofText t)).progress.files
    ∀ name ∈ results.keys, ∀ name' ∈ results.keys, ¬ BeginsForeign name → ¬ BeginsForeign name' →
      Comparable name name' := by
  intro results name hname name' hname'
  obtain ⟨entry, hentry, rfl⟩ := List.mem_map.1 hname
  obtain ⟨entry', hentry', rfl⟩ := List.mem_map.1 hname'
  obtain ⟨loaded, hloaded, -, rfl⟩ := exists_of_mem_entries tokenizer h entry hentry
  obtain ⟨loaded', hloaded', -, rfl⟩ := exists_of_mem_entries tokenizer h entry' hentry'
  exact comparable_names_of_load h loaded (finished_sublist.subset hloaded) loaded'
    (finished_sublist.subset hloaded')

/-- A run that was not broken off is reported, or the names of its results cannot be put in order. -/
theorem reported_cases
    (hunbroken : (run options tokenizer tree directory).error? = none)
    (hcounts : Numeral.isWritable
      (run options tokenizer tree directory).progress.counts.total = true)
    (hencoding : summarize options (run options tokenizer tree directory).progress.counts
      (run options tokenizer tree directory).progress.files ≠ .error .encoding) :
    Reported options tokenizer tree directory ∨ ∃ e,
      Natural.sortBy Prod.fst (run options tokenizer tree directory).progress.files.entries =
        .error e ∧
      (runAndSummarize options tokenizer tree directory).status = .error (.summary (.order e)) := by
  obtain ⟨files, hload⟩ := exists_load_of_unbroken hunbroken
  obtain ⟨hrun, hfiles⟩ := writable_of_load hload hcounts
  obtain ⟨summary, hsummary⟩ | hencoded | ⟨e, hsorted, hsummary⟩ :=
    summarize_cases options hrun hfiles
  · refine .inl ⟨summary, hsummary, ?_⟩
    simp only [runAndSummarize, hunbroken, hsummary]
  · exact absurd hencoded hencoding
  · refine .inr ⟨e, hsorted, ?_⟩
    simp only [runAndSummarize, hunbroken, hsummary]

/-- **A run that was not broken off is reported unless a name begins with foreign digits**, and in any
case if the names of its results can be compared.  If they cannot, that is what the session ends with. -/
theorem reported_unless_beginsForeign
    (hunbroken : (run options tokenizer tree (.ofText t)).error? = none)
    (hcounts : Numeral.isWritable
      (run options tokenizer tree (.ofText t)).progress.counts.total = true)
    (hencoding : summarize options (run options tokenizer tree (.ofText t)).progress.counts
      (run options tokenizer tree (.ofText t)).progress.files ≠ .error .encoding) :
    let names := (run options tokenizer tree (.ofText t)).progress.files.keys
    ((∀ name ∈ names, ¬ BeginsForeign name) → Reported options tokenizer tree (.ofText t)) ∧
      (Reported options tokenizer tree (.ofText t) ↔
        ∀ name ∈ names, ∀ name' ∈ names, Comparable name name') ∧
      (Reported options tokenizer tree (.ofText t) ∨
        ∃ e, (runAndSummarize options tokenizer tree (.ofText t)).status =
          .error (.summary (.order e))) := by
  intro names
  have hcases := reported_cases hunbroken hcounts hencoding
  have hreported : (∀ name ∈ names, ∀ name' ∈ names, Comparable name name') →
      Reported options tokenizer tree (.ofText t) := by
    intro hcomparable
    obtain hreported | ⟨e, hsorted, -⟩ := hcases
    · exact hreported
    · obtain ⟨sorted, hsuccess⟩ := Natural.exists_sortBy fun _ hentry _ hentry' =>
        hcomparable _ (List.mem_map_of_mem hentry) _ (List.mem_map_of_mem hentry')
      rw [hsorted] at hsuccess
      cases hsuccess
  refine ⟨fun hforeign => hreported fun name hname name' hname' => ?_, ⟨?_, hreported⟩, ?_⟩
  · -- the names have been compared behind the path of the test directory
    obtain ⟨files, hload⟩ := exists_load_of_unbroken hunbroken
    exact comparable_names hload name hname name' hname' (hforeign name hname)
      (hforeign name' hname')
  · rintro ⟨summary, hsummary, -⟩
    exact comparable_of_summarize hsummary
  · exact hcases.imp_right fun ⟨e, _, hstatus⟩ => ⟨e, hstatus⟩

/-- A test directory with one file of the given name, whose only test passes. -/
def singleTree (name : Text) : FileTree :=
  ⟨[([ofString "suite", name],
    ofString "\x7b\"tests\":[\x7b\"input\":\"<!--a-->\",\"output\":[[\"Comment\",\"a\"]]\x7d]\x7d")],
    [], []⟩

/-- Foreign digits behind a letter do no harm. -/
theorem reported_unless_beginsForeign_behindLetter :
    let tree := singleTree (ofString "a²1.test")
    (run .default standIn tree (.ofText (ofString "suite"))).error? = none ∧
      (run .default standIn tree (.ofText (ofString "suite"))).progress.files.keys =
        [ofString "a²1.test"] ∧
      ¬ BeginsForeign (ofString "a²1.test") ∧
      Reported .default standIn tree (.ofText (ofString "suite")) := by
  intro tree
  obtain ⟨hunbroken, hkeys, hcounts, hencoding⟩ :
      (run .default standIn tree (.ofText (ofString "suite"))).error? = none ∧
      (run .default standIn tree (.ofText (ofString "suite"))).progress.files.keys =
        [ofString "a²1.test"] ∧
      Numeral.isWritable
        (run .default standIn tree (.ofText (ofString "suite"))).progress.counts.total = true ∧
      summarize .default (run .default standIn tree (.ofText (ofString "suite"))).progress.counts
        (run .default standIn tree (.ofText (ofString "suite"))).progress.files ≠
          .error .encoding := by
    decide +kernel
  have hforeign : ¬ BeginsForeign (ofString "a²1.test") := by decide +kernel
  obtain ⟨hreported, -, -⟩ := reported_unless_beginsForeign hunbroken hcounts hencoding
  refine ⟨hunbroken, hkeys, hforeign, hreported ?_⟩
  rw [hkeys]
  exact List.forall_mem_singleton.2 hforeign

/-- A run is not reported although it has finished: its only file begins with a digit that has no value,
which was part of a text behind the path of the test directory. -/
theorem not_reported_of_beginsForeign :
    ¬ ∀ (options : RunOptions) (tokenizer : Tokenizer) (tree : FileTree) (t : Text),
      tree.HasPlainNames → (run options tokenizer tree (.ofText t)).error? = none →
        Numeral.isWritable (run options tokenizer tree (.ofText t)).progress.counts.total = true →
        summarize options (run options tokenizer tree (.ofText t)).progress.counts
          (run options tokenizer tree (.ofText t)).progress.files ≠ .error .encoding →
        ∃ code, (runAndSummarize options tokenizer tree (.ofText t)).status = .ok code := by
  intro h
  have hplain : (singleTree (ofString "²1.test")).HasPlainNames := by decide
  obtain ⟨code, hcode⟩ := h .default standIn (singleTree (ofString "²1.test")) (ofString "suite")
    hplain (by decide +kernel) (by decide +kernel) (by decide +kernel)
  have hnone : (runAndSummarize .default standIn (singleTree (ofString "²1.test"))
      (.ofText (ofString "suite"))).status.toOption = none := by
    decide +kernel
  rw [hcode] at hnone
  cases hnone

end Runs

end TokenConformance
