import Mathlib.Data.List.Nodup
import TokenConformance.Main
import TokenConformance.Proofs.ExceptLaws
import TokenConformance.Proofs.Text.Pieces

/-!
# Test files — listed once, and loaded with states to run in

The test files below a directory are the ways there whose names end with `.test`
(`testFiles_eq_ok`).  Where no name holds a slash, as in the trees of all documents
(`hasPlainNames_of_ofDocument?`), no two test files have the same written path (`nodup_relative`).  A
loaded test has at least one state to start in (`initialStates_ne_nil`).
-/

namespace TokenConformance

namespace FileTree

variable {tree : FileTree} {directory way : List Text}

/-! ### What lies below a directory -/

/-- The names of all files and directories that a tree tells of. -/
def entries (tree : FileTree) : List (List Text) :=
  tree.files.map Prod.fst ++ tree.working :: tree.directories

/-- No name of a file or directory holds a slash. -/
def HasPlainNames (tree : FileTree) : Prop :=
  ∀ names ∈ tree.entries, ∀ name ∈ names, CodePoint.ofChar '/' ∉ name

instance : Decidable tree.HasPlainNames :=
  inferInstanceAs (Decidable (∀ names ∈ tree.entries, ∀ name ∈ names, CodePoint.ofChar '/' ∉ name))

/-- Following `..` along names gives no new ones. -/
theorem mem_of_mem_resolve {name : Text} {names : List Text} (h : name ∈ resolve names) :
    name ∈ names := by
  have hsubset : ∀ {names above : List Text}, (names.foldl (fun above name =>
      if name = Text.ofString ".." then above.dropLast else above ++ [name]) above) ⊆
        above ++ names := by
    intro names
    induction names with
    | nil => simp
    | cons name names ih =>
      intro above
      rw [List.foldl_cons]
      refine List.Subset.trans ih ?_
      split
      · exact List.append_subset.2 ⟨fun x hx => by simp [List.dropLast_subset _ hx], by simp⟩
      · simp
  simpa using hsubset h

/-- A file whose names are plain keeps the names of a tree plain. -/
theorem HasPlainNames.add (h : tree.HasPlainNames) {names : List Text}
    (hnames : ∀ name ∈ names, CodePoint.ofChar '/' ∉ name) (content : Text) :
    (tree.add names content).HasPlainNames := by
  intro entry hentry name hname
  simp only [entries, FileTree.add, List.map_append, List.mem_append, List.mem_map,
    List.mem_filter] at hentry
  obtain (⟨file, ⟨hfile, -⟩, rfl⟩ | ⟨file, hfile, rfl⟩) | hentry := hentry
  · exact h file.1 (List.mem_append_left _ (List.mem_map_of_mem hfile)) name hname
  · rw [List.mem_singleton] at hfile
    rw [hfile] at hname
    exact hnames name (mem_of_mem_resolve hname)
  · exact h entry (List.mem_append_right _ hentry) name hname

theorem mem_below_iff :
    way ∈ tree.below directory ↔ way ≠ [] ∧ ∃ rest, directory ++ (way ++ rest) ∈ tree.entries := by
  simp only [below, List.mem_eraseDups, List.mem_flatMap, List.mem_filterMap, List.mem_map,
    List.mem_range]
  constructor
  · rintro ⟨inside, ⟨names, hnames, hinside⟩, i, hi, rfl⟩
    split at hinside
    · rename_i hpre
      cases hinside
      obtain ⟨rest, rfl⟩ := List.isPrefixOf_iff_prefix.1 hpre
      rw [List.drop_left] at hi ⊢
      refine ⟨fun hnil => ?_, rest.drop (i + 1), ?_⟩
      · rw [List.take_eq_nil_iff] at hnil
        obtain h | rfl := hnil
        · cases h
        · cases hi
      · rw [List.take_append_drop]
        exact hnames
    · cases hinside
  · rintro ⟨hne, rest, hmem⟩
    have hpos := List.length_pos_iff.2 hne
    refine ⟨way ++ rest, ⟨directory ++ (way ++ rest), hmem, ?_⟩, way.length - 1, ?_, ?_⟩
    · rw [if_pos (List.isPrefixOf_iff_prefix.2 (List.prefix_append _ _)), List.drop_left]
    · rw [List.length_append]
      omega
    · exact List.take_left' (by omega)

theorem nodup_eraseDups {α : Type} [BEq α] [LawfulBEq α] : ∀ l : List α, l.eraseDups.Nodup
  | [] => List.nodup_nil
  | a :: l => by
    rw [List.eraseDups_cons, List.nodup_cons]
    refine ⟨fun h => ?_, nodup_eraseDups _⟩
    have := (List.mem_filter.1 (List.mem_eraseDups.1 h)).2
    simp at this
termination_by l => l.length
decreasing_by exact Nat.lt_succ_of_le (List.length_filter_le _ _)

theorem nodup_below : (tree.below directory).Nodup := nodup_eraseDups _

end FileTree

/-! ### Written paths -/

/-- The names in a written path are plain. -/
theorem Path.plain_of_ofText {t name : Text} (h : name ∈ (Path.ofText t).names) :
    CodePoint.ofChar '/' ∉ name :=
  Text.notMem_of_mem_splitOn (List.mem_of_mem_filter h)

/-- A file under a written path keeps the names of a tree plain. -/
theorem FileTree.HasPlainNames.add_ofText {tree : FileTree} (h : tree.HasPlainNames)
    (path content : Text) : (tree.add (Path.ofText path).names content).HasPlainNames :=
  h.add (fun _ => Path.plain_of_ofText) content

/-- What each step of a fold keeps is kept by the fold, unless a step fails. -/
theorem FileTree.holds_of_foldlM {α β : Type} {P : β → Prop} {f : β → α → Option β}
    (hstep : ∀ {b b' : β} (a : α), P b → f b a = some b' → P b') :
    ∀ {l : List α} {b b' : β}, P b → l.foldlM f b = some b' → P b'
  | [], _, _, hb, h => Option.some.inj h ▸ hb
  | a :: l, _, _, hb, h => by
    rw [List.foldlM_cons, Option.bind_eq_bind, Option.bind_eq_some_iff] at h
    obtain ⟨next, hnext, hrest⟩ := h
    exact holds_of_foldlM hstep (hstep a hb hnext) hrest

/-- **The names in the tree of a document are plain**: its files are given by written paths. -/
theorem FileTree.hasPlainNames_of_ofDocument? {document : Json} {tree : FileTree}
    (h : ofDocument? document = some tree) : tree.HasPlainNames := by
  cases document with
  | arr items =>
    have hempty : (FileTree.empty []).HasPlainNames := by decide
    refine holds_of_foldlM (fun item hplain hadd => ?_) hempty h
    split at hadd
    · cases hadd
      exact hplain.add_ofText _ _
    · cases hadd
  | _ => cases h

theorem Path.toText_of_ne_nil {root : Text} {names : List Text} (h : names ≠ []) :
    (Path.mk root names).toText = root ++ Text.join [CodePoint.ofChar '/'] names := by
  have hnames : names.isEmpty = false := List.isEmpty_eq_false_iff.2 h
  rw [Path.toText, hnames, Bool.and_false, if_neg Bool.false_ne_true]
  rfl

theorem Path.rootOf_cases (t : Text) :
    Path.rootOf t = [] ∨ ∃ p, Path.rootOf t = p ++ [CodePoint.ofChar '/'] := by
  unfold Path.rootOf
  split
  · exact .inl rfl
  · exact .inr ⟨Text.ofString "/", rfl⟩
  · exact .inr ⟨[], rfl⟩

/-- Relative paths without a slash in any name are told apart by their written forms. -/
theorem Path.eq_of_toText_eq {way way' : List Text} (h : way ≠ []) (h' : way' ≠ [])
    (hplain : ∀ name ∈ way, CodePoint.ofChar '/' ∉ name)
    (hplain' : ∀ name ∈ way', CodePoint.ofChar '/' ∉ name)
    (heq : (Path.mk [] way).toText = (Path.mk [] way').toText) : way = way' := by
  rw [toText_of_ne_nil h, toText_of_ne_nil h', List.append_cancel_left_eq] at heq
  rw [← Text.splitOn_join h hplain, heq, Text.splitOn_join h' hplain']

namespace Suite

open Text (ofString)

variable {tree : FileTree} {directory : Path} {found : List TestFile}

/-! ### Listing -/

/-- The test file at a way from the test directory. -/
def fileAt (directory : Path) (way : List Text) : TestFile :=
  ⟨⟨[], way⟩, directory.join ⟨[], way⟩⟩

/-- Listing finds the ways below the directory whose names end with `.test`. -/
theorem testFiles_eq_ok (h : testFiles tree directory = .ok found) :
    found = [] ∨ ∃ names, tree.locate directory = some (.directory names) ∧
      found = ((tree.below names).filter fun way =>
        (Path.mk [] way).fileName.endsWith (ofString ".test")).map (fileAt directory) := by
  unfold testFiles at h
  split at h
  · rename_i names hlocate
    simp only at h
    split at h
    · cases h
    · cases h
      refine .inr ⟨names, hlocate, ?_⟩
      rw [List.filterMap_map, ← List.filterMap_eq_map, List.filterMap_filter]
      rfl
  · cases h
  · cases h
    exact .inl rfl

/-- A test file that is found has at least one name behind that of the directory. -/
theorem exists_fileAt (h : testFiles tree directory = .ok found) :
    ∀ file ∈ found, ∃ way, way ≠ [] ∧ file = fileAt directory way := by
  obtain rfl | ⟨names, -, rfl⟩ := testFiles_eq_ok h
  · nofun
  · intro file hfile
    obtain ⟨way, hway, rfl⟩ := List.mem_map.1 hfile
    exact ⟨way, (FileTree.mem_below_iff.1 (List.mem_filter.1 hway).1).1, rfl⟩

/-- Without slashes in names, no two test files have one written path. -/
theorem nodup_relative (hplain : tree.HasPlainNames) (h : testFiles tree directory = .ok found) :
    (found.map fun file => file.relative.toText).Nodup := by
  obtain rfl | ⟨names, -, rfl⟩ := testFiles_eq_ok h
  · exact List.nodup_nil
  · rw [List.map_map]
    refine List.Nodup.map_on ?_ (FileTree.nodup_below.filter _)
    have hway : ∀ way ∈ (tree.below names).filter fun way =>
        (Path.mk [] way).fileName.endsWith (ofString ".test"),
        way ≠ [] ∧ ∀ name ∈ way, CodePoint.ofChar '/' ∉ name := by
      intro way hmem
      obtain ⟨hne, rest, hentry⟩ := FileTree.mem_below_iff.1 (List.mem_filter.1 hmem).1
      exact ⟨hne, fun name hname => hplain _ hentry name (by simp [hname])⟩
    intro way hmem way' hmem' heq
    exact Path.eq_of_toText_eq (hway way hmem).1 (hway way' hmem').1 (hway way hmem).2
      (hway way' hmem').2 heq

/-! ### Loading -/

theorem file_of_loadFile {file : TestFile} {loaded : LoadedFile}
    (h : loadFile tree file = .ok loaded) : loaded.file = file := by
  unfold loadFile at h
  split at h
  · rename_i content _
    cases hread : readTests content with
    | error e => rw [hread] at h; cases h
    | ok tests => rw [hread] at h; cases h; rfl
  · cases h
  · cases h

end Suite

namespace TestCase

variable {test : TestCase}

/-- A value that counts as true is not empty. -/
theorem iterate_ne_nil {states : Json} (h : states.isTruthy = true) {items : List Json}
    (hitems : states.iterate = .ok items) : items ≠ [] := by
  rintro rfl
  cases states with
  | arr items => cases hitems; cases h
  | str t =>
    rw [List.map_eq_nil_iff.1 (Except.ok.inj hitems)] at h
    cases h
  | obj members =>
    rw [List.map_eq_nil_iff.1 (Except.ok.inj hitems)] at h
    cases h
  | _ => cases hitems

theorem statesOf_ne_nil {states : Json} {found : List TokenizerState}
    (h : statesOf states = .ok found) : found ≠ [] := by
  unfold statesOf at h
  split at h
  · rename_i htruthy
    split at h
    · rename_i items hitems
      have hlength := (Except.mapM_eq_ok_iff.1 h).length_eq
      rintro rfl
      exact iterate_ne_nil htruthy hitems (List.length_eq_zero_iff.1 hlength)
    · cases h
  · cases h
    exact List.cons_ne_nil _ _

theorem initialStates_ne_nil_of_ofEntry {entry : Json} (h : ofEntry entry = .ok test) :
    test.initialStates ≠ [] := by
  unfold ofEntry at h
  split at h
  · unfold ofMembers at h
    simp only [Except.bind_eq_ok_iff] at h
    obtain ⟨_, -, _, -, _, -, h⟩ := h
    -- whether the test is double-escaped decides how input and expected tokens are read
    split at h <;>
    · obtain ⟨_, -, _, -, states, hstates, htest⟩ := by simpa only [Except.bind_eq_ok_iff] using h
      cases htest
      exact statesOf_ne_nil hstates
  · cases h

theorem initialStates_ne_nil_of_listOf {file : Json} {tests : List TestCase}
    (h : listOf file = .ok tests) (htest : test ∈ tests) : test.initialStates ≠ [] := by
  unfold listOf at h
  simp only [Except.bind_eq_ok_iff] at h
  obtain ⟨_, -, _, -, h⟩ := h
  obtain ⟨entry, -, hentry⟩ := Except.exists_of_mem_mapM h htest
  exact initialStates_ne_nil_of_ofEntry hentry

end TestCase

/-- A test that was loaded has a state to start in. -/
theorem Suite.initialStates_ne_nil {tree : FileTree} {file : TestFile} {loaded : LoadedFile}
    (h : Suite.loadFile tree file = .ok loaded) {test : TestCase} (htest : test ∈ loaded.tests) :
    test.initialStates ≠ [] := by
  unfold Suite.loadFile at h
  split at h
  · rename_i content _
    cases hread : Suite.readTests content with
    | error e => rw [hread] at h; cases h
    | ok tests =>
      rw [hread] at h
      cases h
      unfold Suite.readTests at hread
      obtain ⟨file, -, hlist⟩ := Except.bind_eq_ok_iff.1 hread
      exact TestCase.initialStates_ne_nil_of_listOf (Except.mapError_eq_ok_iff.1 hlist) htest
  · cases h
  · cases h

end TokenConformance
