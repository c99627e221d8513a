import TokenConformance.Proofs.Text.Pieces
import TokenConformance.Run.Options

/-!
# Selection — which files and tests the options ask for

`RunOptions.SelectsFile` and `RunOptions.SelectsTest` say it without looking through the filters: no
excluded part occurs, and a wanted one does where parts are wanted; a test is also named by a spec
where there are specs.  A run takes the files (`takesFile_iff`) and, among tests with a text for their
input, the tests (`takesTest_str`) that are selected.
-/

namespace TokenConformance.RunOptions

/-! ### What is selected -/

/-- None of the excluded parts occurs in a text and, where parts are wanted, one of them does. -/
structure Admits (excluded wanted : List Text) (t : Text) : Prop where
  notExcluded : ∀ part ∈ excluded, ¬ part <:+: t
  isWanted : wanted = [] ∨ ∃ part ∈ wanted, part <:+: t

/-- The options select the files with a name. -/
def SelectsFile (options : RunOptions) (name : Text) : Prop :=
  Admits (parts options.excludeFiles) (parts options.filterFiles) name

/-- A spec names a test: it is the name of the test's file, a colon, and items with commas between
them of which one is the test's index. -/
def Names (spec name : Text) (index : Nat) : Prop :=
  CodePoint.ofChar ':' ∉ name ∧
    ∃ items : List Text, (∀ item ∈ items, CodePoint.ofChar ',' ∉ item) ∧
      spec = name ++ CodePoint.ofChar ':' :: Text.join [CodePoint.ofChar ','] items ∧
      Text.ofNat index ∈ items

/-- The options select the test with an input at an index of the file with a name. -/
structure SelectsTest (options : RunOptions) (name : Text) (index : Nat) (input : Text) : Prop where
  isNamed : options.testSpecs = [] ∨ ∃ spec ∈ options.testSpecs, Names spec name index
  admits : Admits (parts options.excludeInputs) (parts options.filterInputs) input

/-! ### What is taken -/

variable {options : RunOptions} {excluded wanted : List Text} {t spec name : Text} {index : Nat}

theorem admits_iff :
    (!(excluded.any fun part => part.occursIn t) &&
      (wanted.isEmpty || wanted.any fun part => part.occursIn t)) = true ↔
      Admits excluded wanted t := by
  simp only [Bool.and_eq_true, Bool.not_eq_true', List.any_eq_false, Text.occursIn_iff,
    Bool.or_eq_true, List.isEmpty_iff, List.any_eq_true]
  exact ⟨fun h => ⟨h.1, h.2⟩, fun h => ⟨h.notExcluded, h.isWanted⟩⟩

instance : Decidable (Admits excluded wanted t) := decidable_of_iff _ admits_iff

instance : Decidable (options.SelectsFile name) :=
  inferInstanceAs (Decidable (Admits _ _ _))

theorem takesFile_iff : options.takesFile name = true ↔ options.SelectsFile name := admits_iff

theorem specNames_iff : specNames spec name index = true ↔ Names spec name index := by
  unfold specNames
  split
  · rename_i hsplit
    refine ⟨nofun, fun ⟨hname, items, _, hspec, _⟩ => ?_⟩
    rw [Text.splitAtFirst?_eq_some_iff.2 ⟨hspec, hname⟩] at hsplit
    cases hsplit
  · rename_i file indices hsplit
    obtain ⟨rfl, hfile⟩ := Text.splitAtFirst?_eq_some_iff.1 hsplit
    rw [Bool.and_eq_true, beq_iff_eq, List.contains_iff_mem]
    constructor
    · rintro ⟨rfl, hindex⟩
      refine ⟨hfile, Text.splitOn ',' indices, fun item => Text.notMem_of_mem_splitOn, ?_, hindex⟩
      rw [Text.join_splitOn]
    · rintro ⟨hname, items, hitems, hspec, hindex⟩
      rw [Text.splitAtFirst?_eq_some_iff.2 ⟨hspec, hname⟩] at hsplit
      cases hsplit
      refine ⟨rfl, ?_⟩
      rwa [Text.splitOn_join (List.ne_nil_of_mem hindex) hitems]

instance : Decidable (Names spec name index) := decidable_of_iff _ specNames_iff

theorem selectsTest_iff {input : Text} : options.SelectsTest name index input ↔
    (options.testSpecs = [] ∨ ∃ spec ∈ options.testSpecs, Names spec name index) ∧
      Admits (parts options.excludeInputs) (parts options.filterInputs) input :=
  ⟨fun h => ⟨h.isNamed, h.admits⟩, fun h => ⟨h.1, h.2⟩⟩

instance {input : Text} : Decidable (options.SelectsTest name index input) :=
  decidable_of_iff' _ selectsTest_iff

theorem anyOccurs_str {input : Text} : ∀ parts : List Text,
    anyOccurs (.str input) parts = .ok (parts.any fun part => part.occursIn input)
  | [] => rfl
  | part :: parts => by
    have hsearch : Json.search part (.str input) = .ok (part.occursIn input) := rfl
    rw [anyOccurs, hsearch, List.any_cons]
    cases part.occursIn input with
    | true => rfl
    | false => exact anyOccurs_str parts

theorem isNamed_iff :
    (!options.testSpecs.isEmpty && !(options.testSpecs.any fun spec => specNames spec name index)) =
        false ↔
      options.testSpecs = [] ∨ ∃ spec ∈ options.testSpecs, Names spec name index := by
  simp only [Bool.and_eq_false_iff, Bool.not_eq_false', List.isEmpty_iff, List.any_eq_true,
    specNames_iff]

/-- **A test whose input is a text is taken exactly if it is selected.** -/
theorem takesTest_str (options : RunOptions) (name : Text) (index : Nat) {input : Text}
    {test : TestCase} (h : test.input = .str input) :
    options.takesTest name index test = .ok (decide (options.SelectsTest name index input)) := by
  have hselects : options.takesTest name index test =
      .ok (!(!options.testSpecs.isEmpty &&
          !(options.testSpecs.any fun spec => specNames spec name index)) &&
        (!((parts options.excludeInputs).any fun part => part.occursIn input) &&
          ((parts options.filterInputs).isEmpty ||
            (parts options.filterInputs).any fun part => part.occursIn input))) := by
    simp only [takesTest, h, anyOccurs_str]
    generalize (!options.testSpecs.isEmpty &&
      !(options.testSpecs.any fun spec => specNames spec name index)) = unnamed
    generalize ((parts options.excludeInputs).any fun part => part.occursIn input) = excluded
    generalize ((parts options.filterInputs).any fun part => part.occursIn input) = wanted
    cases unnamed <;> cases excluded <;> cases (parts options.filterInputs).isEmpty <;> rfl
  rw [hselects]
  congr 1
  rw [Bool.eq_iff_iff, decide_eq_true_iff, selectsTest_iff, Bool.and_eq_true, admits_iff,
    Bool.not_eq_true', isNamed_iff]

end TokenConformance.RunOptions
