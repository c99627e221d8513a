import TokenConformance.Proofs.NaturalOrder.Directory
import TokenConformance.Proofs.Run.Selection
import TokenConformance.Proofs.Suite.Files
import TokenConformance.Run.Execute

/-!
# Loading — which files a run starts from

A run starts from the selected test files in natural order of their paths, each with the tests that it
holds (`loads_of_load`).  It gets there if each of them can be read and any two of their paths can be
compared (`exists_load`).  Their paths are the path of the test directory followed by their names
(`exists_leads_of_load`).
-/

namespace TokenConformance.Run

/-- Of the test files that were found, those that the options select have been loaded in natural
order. -/
structure Loads (options : RunOptions) (tree : FileTree) (found : List TestFile)
    (files : List LoadedFile) : Prop where
  sorted : Natural.SortedBy (fun file => file.path.toText)
    (found.filter fun file => options.SelectsFile file.path.fileName) (files.map LoadedFile.file)
  loaded : ∀ loaded ∈ files, Suite.loadFile tree loaded.file = .ok loaded

variable {options : RunOptions} {tree : FileTree} {directory : Path} {found : List TestFile}
  {files : List LoadedFile}

theorem filter_takesFile : (found.filter fun file => options.takesFile file.path.fileName) =
    found.filter fun file => options.SelectsFile file.path.fileName := by
  refine List.filter_congr fun file _ => ?_
  rw [Bool.eq_iff_iff, decide_eq_true_iff, RunOptions.takesFile_iff]

theorem load_eq_ok_iff : load options tree directory = .ok files ↔
    ∃ found, Suite.testFiles tree directory = .ok found ∧
      ∃ sorted, Suite.sortFiles
          (found.filter fun file => options.SelectsFile file.path.fileName) = .ok sorted ∧
        sorted.mapM (Suite.loadFile tree) = .ok files := by
  simp only [load, Except.bind_eq_ok_iff, Except.mapError_eq_ok_iff, filter_takesFile]

/-- **What a run has loaded are the selected files in natural order.** -/
theorem loads_of_load (h : load options tree directory = .ok files) :
    ∃ found, Suite.testFiles tree directory = .ok found ∧ Loads options tree found files := by
  obtain ⟨found, hfound, sorted, hsorted, hloaded⟩ := load_eq_ok_iff.1 h
  obtain ⟨rfl, hfiles⟩ := Except.map_of_mapM_eq_ok (fun _ _ => Suite.file_of_loadFile) hloaded
  exact ⟨found, hfound, Natural.sorted_of_sortBy hsorted, hfiles⟩

/-- The paths of loaded files can be compared, since they have been sorted. -/
theorem comparable_of_load (h : load options tree directory = .ok files) :
    ∀ loaded ∈ files, ∀ loaded' ∈ files,
      Natural.Comparable loaded.file.path.toText loaded'.file.path.toText := by
  obtain ⟨found, -, sorted, hsorted, hloaded⟩ := load_eq_ok_iff.1 h
  obtain ⟨rfl, -⟩ := Except.map_of_mapM_eq_ok (fun _ _ => Suite.file_of_loadFile) hloaded
  have hsubset := (Natural.sorted_of_sortBy hsorted).perm.subset
  have hcomparable := Natural.comparable_of_sortBy hsorted
  intro loaded hmem loaded' hmem'
  exact hcomparable _ (hsubset (List.mem_map_of_mem hmem)) _ (hsubset (List.mem_map_of_mem hmem'))

/-- In front of everything below a directory stands the same text. -/
theorem exists_leads (t : Text) : ∃ path, Natural.Leads path ∧ ∀ way ≠ [],
    ((Path.ofText t).join ⟨[], way⟩).toText = path ++ (Path.mk [] way).toText := by
  have hjoin : ∀ way ≠ [], ((Path.ofText t).join ⟨[], way⟩).toText =
      Path.rootOf t ++ Text.join [CodePoint.ofChar '/'] ((Path.ofText t).names ++ way) :=
    fun way hway => Path.toText_of_ne_nil (List.append_ne_nil_of_right_ne_nil _ hway)
  by_cases hnames : (Path.ofText t).names = []
  · refine ⟨Path.rootOf t, Path.rootOf_cases t, fun way hway => ?_⟩
    rw [hjoin way hway, hnames, List.nil_append, Path.toText_of_ne_nil hway, List.nil_append]
  · refine ⟨Path.rootOf t ++ Text.join [CodePoint.ofChar '/'] (Path.ofText t).names ++
      [CodePoint.ofChar '/'], .inr ⟨_, rfl⟩, fun way hway => ?_⟩
    rw [hjoin way hway, Text.join_append hnames hway, Path.toText_of_ne_nil hway, List.nil_append]
    simp only [List.append_assoc, List.singleton_append]

/-- The paths of loaded files begin with that of the test directory. -/
theorem exists_leads_of_load {t : Text} (h : load options tree (.ofText t) = .ok files) :
    ∃ path, Natural.Leads path ∧
      ∀ loaded ∈ files, loaded.file.path.toText = path ++ loaded.file.relative.toText := by
  obtain ⟨path, hpath, hjoin⟩ := exists_leads t
  obtain ⟨found, hfound, hloads⟩ := loads_of_load h
  refine ⟨path, hpath, fun loaded hloaded => ?_⟩
  have hmem := hloads.sorted.perm.subset (List.mem_map_of_mem hloaded)
  obtain ⟨way, hway, hfile⟩ := Suite.exists_fileAt hfound _ (List.mem_of_mem_filter hmem)
  rw [hfile]
  exact hjoin way hway

/-- A run loads its files if each can be read and any two can be put in order. -/
theorem exists_load (hfound : Suite.testFiles tree directory = .ok found)
    (hload : ∀ file ∈ found, options.SelectsFile file.path.fileName →
      ∃ loaded, Suite.loadFile tree file = .ok loaded)
    (hcomparable : ∀ file ∈ found, options.SelectsFile file.path.fileName →
      ∀ file' ∈ found, options.SelectsFile file'.path.fileName →
        Natural.Comparable file.path.toText file'.path.toText) :
    ∃ files, load options tree directory = .ok files ∧ Loads options tree found files := by
  have hmem : ∀ {file}, file ∈ (found.filter fun file => options.SelectsFile file.path.fileName) →
      file ∈ found ∧ options.SelectsFile file.path.fileName := fun h => by
    simpa using h
  obtain ⟨sorted, hsorted⟩ : ∃ sorted, Suite.sortFiles
      (found.filter fun file => options.SelectsFile file.path.fileName) = .ok sorted :=
    Natural.exists_sortBy fun file hfile file' hfile' =>
      hcomparable file (hmem hfile).1 (hmem hfile).2 file' (hmem hfile').1 (hmem hfile').2
  have hperm := (Natural.sorted_of_sortBy hsorted).perm
  obtain ⟨files, hfiles⟩ : ∃ files, sorted.mapM (Suite.loadFile tree) = .ok files :=
    Except.exists_mapM_eq_ok fun file hfile =>
      hload file (hmem (hperm.subset hfile)).1 (hmem (hperm.subset hfile)).2
  have hran := load_eq_ok_iff.2 ⟨found, hfound, sorted, hsorted, hfiles⟩
  obtain ⟨found', hfound', hloads⟩ := loads_of_load hran
  cases hfound.symm.trans hfound'
  exact ⟨files, hran, hloads⟩

end TokenConformance.Run
