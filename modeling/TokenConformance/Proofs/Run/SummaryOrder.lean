import TokenConformance.Proofs.Run.Accounting

/-!
# The order of a summary — that in which the files were run

Files are put in order twice, by their whole paths before they are run and by their paths from the test
directory in the summary.  The path of the test directory takes no part in the order
(`pairwise_precedes_of_load`), so the second sorting finds the files in order and changes nothing
(`sortBy_entries`).  The lines of a summary stand in the order of the run (`summary_in_run_order`).
-/

namespace TokenConformance.Run

open Natural (BeginsForeign Comparable Precedes Readable)
open Text (ofString)

variable {options : RunOptions} {tokenizer : Tokenizer} {tree : FileTree} {t : Text}
  {files : List LoadedFile}

/-! ### Loaded files by their names -/

section Names

theorem comparable_names_of_load (h : load options tree (.ofText t) = .ok files) :
    ∀ loaded ∈ files, ∀ loaded' ∈ files, ¬ BeginsForeign loaded.file.relative.toText →
      ¬ BeginsForeign loaded'.file.relative.toText →
        Comparable loaded.file.relative.toText loaded'.file.relative.toText := by
  intro loaded hmem loaded' hmem' hname hname'
  obtain ⟨path, hpath, hnames⟩ := exists_leads_of_load h
  have hcomparable := comparable_of_load h loaded hmem loaded' hmem'
  rw [hnames loaded hmem, hnames loaded' hmem'] at hcomparable
  exact hcomparable.of_leads hpath hname hname'

/-- **Loaded files stand in the natural order of their names**, whatever the path of their directory. -/
theorem pairwise_precedes_of_load (h : load options tree (.ofText t) = .ok files)
    (hforeign : ∀ loaded ∈ files, ¬ BeginsForeign loaded.file.relative.toText) :
    files.Pairwise fun loaded loaded' =>
      Precedes loaded.file.relative.toText loaded'.file.relative.toText := by
  obtain ⟨path, hpath, hnames⟩ := exists_leads_of_load h
  obtain ⟨found, -, hloads⟩ := loads_of_load h
  refine (List.pairwise_map.1 hloads.sorted.ordered).imp_of_mem fun hmem hmem' hprecedes => ?_
  rw [hnames _ hmem, hnames _ hmem'] at hprecedes
  exact hprecedes.of_leads hpath (hforeign _ hmem) (hforeign _ hmem')

end Names

/-! ### Results in order -/

section Results

theorem tested_sublist : (tested options tokenizer files).Sublist files := List.filter_sublist

/-- A run records the results of the files that it gets through one after another. -/
theorem exists_results (tokenizer : Tokenizer) {directory : Path}
    (h : load options tree directory = .ok files) :
    ∃ rest, (run options tokenizer tree directory).progress.results =
      ((tested options tokenizer (finished options tokenizer files)).flatMap
        (executedIn options tokenizer)).flatMap (fun p => results options tokenizer p.test) ++
        rest := by
  obtain ⟨hadvances, -, -⟩ := run_spec tokenizer h
  rw [hadvances.results, flatMap_tested]
  obtain ⟨-, hexecuted⟩ | ⟨loaded, stop, -, htrail⟩ := trail_flatMap options tokenizer files
  · exact ⟨[], by rw [hexecuted, List.append_nil]; rfl⟩
  · -- the file in which the run stops has its results recorded behind those of the others
    refine ⟨(executedIn options tokenizer loaded).flatMap fun p => results options tokenizer p.test, ?_⟩
    rw [htrail, List.flatMap_append]
    rfl

/-- Results that are published in the order of a run are in natural order of their names. -/
theorem sortBy_entries (h : load options tree (.ofText t) = .ok files)
    (hforeign : ∀ loaded ∈ files, ¬ BeginsForeign loaded.file.relative.toText)
    {listed : List LoadedFile} (hlisted : listed.Sublist files) :
    Natural.sortBy Prod.fst (listed.map (entryOf options tokenizer)) =
      .ok (listed.map (entryOf options tokenizer)) := by
  refine Natural.sortBy_of_pairwise (fun entry hentry entry' hentry' => ?_) ?_
  · obtain ⟨loaded, hmem, rfl⟩ := List.mem_map.1 hentry
    obtain ⟨loaded', hmem', rfl⟩ := List.mem_map.1 hentry'
    exact comparable_names_of_load h loaded (hlisted.subset hmem) loaded' (hlisted.subset hmem')
      (hforeign loaded (hlisted.subset hmem)) (hforeign loaded' (hlisted.subset hmem'))
  · exact List.pairwise_map.2 ((pairwise_precedes_of_load h hforeign).sublist hlisted)

theorem detailedSummary_of_sortBy {results : FileResults} {sorted : List (Text × FileResult)}
    (header : Text) (h : Natural.sortBy Prod.fst results.entries = .ok sorted) :
    detailedSummary header results =
      (sorted.mapM fun entry : Text × FileResult => entry.2.line entry.1).map fun lines =>
        Text.join (ofString "\n") ([header, []] ++ lines) := by
  rw [detailedSummary, h]
  rfl

/-- **A summary lists files in the order in which they were run**, those with equal keys included. -/
theorem summary_in_run_order (hplain : tree.HasPlainNames)
    (hload : load options tree (.ofText t) = .ok files)
    (hreadable : ∀ loaded ∈ files, Readable loaded.file.relative.toText) :
    let progress := (run options tokenizer tree (.ofText t)).progress
    let listed := tested options tokenizer (finished options tokenizer files)
    -- the listed files have been run one after another, as they were loaded
    listed.Sublist files ∧
    (∃ rest, progress.results = (listed.flatMap (executedIn options tokenizer)).flatMap
      (fun p => results options tokenizer p.test) ++ rest) ∧
    progress.files.entries = listed.map (entryOf options tokenizer) ∧
    -- and sorting them for the summary leaves them as they are
    Natural.sortBy Prod.fst progress.files.entries = .ok progress.files.entries ∧
    ∀ header, detailedSummary header progress.files =
      (progress.files.entries.mapM fun entry : Text × FileResult => entry.2.line entry.1).map fun lines =>
        Text.join (ofString "\n") ([header, []] ++ lines) := by
  intro progress listed
  have hlisted : listed.Sublist files := tested_sublist.trans finished_sublist
  have hentries : progress.files.entries = listed.map (entryOf options tokenizer) := by
    obtain ⟨-, hfiles, -⟩ := run_spec tokenizer hload
    exact (congrArg OrderedMap.entries hfiles).trans
      (entries_foldl_publish (published_names_nodup hplain hload))
  have hsorted : Natural.sortBy Prod.fst progress.files.entries = .ok progress.files.entries := by
    rw [hentries]
    exact sortBy_entries hload (fun loaded hmem => (hreadable loaded hmem).not_beginsForeign) hlisted
  exact ⟨hlisted, exists_results tokenizer hload, hentries, hsorted,
    fun header => detailedSummary_of_sortBy header hsorted⟩

/-- The name of the test directory has a number itself.  Two of its files have equal keys, and the third
has a greater number. -/
def numberedTree : FileTree :=
  let content := ofString "\x7b\"tests\":[\x7b\"input\":\"<!--a-->\",\"output\":[]\x7d]\x7d"
  ⟨[([ofString "suite2", ofString "a10.test"], content),
    ([ofString "suite2", ofString "A09.test"], content),
    ([ofString "suite2", ofString "a9.test"], content)], [], []⟩

def numberedFound : List TestFile :=
  [ofString "a10.test", ofString "A09.test", ofString "a9.test"].map fun name =>
    Suite.fileAt (.ofText (ofString "suite2")) [name]

/-- The three files are loaded, and sorting their results changes nothing. -/
theorem summary_in_run_order_numbered :
    ∃ files, load .default numberedTree (.ofText (ofString "suite2")) = .ok files ∧
      (files.map LoadedFile.file).Perm numberedFound ∧
      (∀ loaded ∈ files, Readable loaded.file.relative.toText) ∧
      let results := (run .default standIn numberedTree (.ofText (ofString "suite2"))).progress.files
      Natural.sortBy Prod.fst results.entries = .ok results.entries := by
  have hplain : numberedTree.HasPlainNames := by decide
  have hfound : Suite.testFiles numberedTree (.ofText (ofString "suite2")) = .ok numberedFound := rfl
  have hread : ∀ file ∈ numberedFound, ∃ loaded,
      Suite.loadFile numberedTree file = .ok loaded ∧ loaded.tests.length = 1 := by
    decide +kernel
  have hcomparable : ∀ file ∈ numberedFound, ∀ file' ∈ numberedFound,
      Natural.Comparable file.path.toText file'.path.toText := by
    decide +kernel
  have hnames : ∀ file ∈ numberedFound,
      (file.relative.toText.all fun c => !c.isDigitLike || c.isDigit) = true ∧
        file.relative.toText.length ≤ 20 := by
    decide +kernel
  obtain ⟨files, hload, hloads⟩ := @exists_load .default _ _ _ hfound
    (fun file hfile _ => (hread file hfile).imp fun _ h => h.1)
    (fun file hfile _ file' hfile' _ => hcomparable file hfile file' hfile')
  have hperm : (files.map LoadedFile.file).Perm numberedFound := by
    have hall : (numberedFound.filter fun file =>
        RunOptions.default.SelectsFile file.path.fileName) = numberedFound := by decide +kernel
    exact hall ▸ hloads.sorted.perm
  have hreadable : ∀ loaded ∈ files, Readable loaded.file.relative.toText := by
    intro loaded hmem
    obtain ⟨hdigits, hlength⟩ := hnames _ (hperm.subset (List.mem_map_of_mem hmem))
    exact Natural.readable_of_length_le hdigits (hlength.trans (by decide))
  obtain ⟨-, -, -, hsorted, -⟩ := @summary_in_run_order .default standIn numberedTree
    (ofString "suite2") files hplain hload hreadable
  exact ⟨files, hload, hperm, hreadable, hsorted⟩

end Results

end TokenConformance.Run
