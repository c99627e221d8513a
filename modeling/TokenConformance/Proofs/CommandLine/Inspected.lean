import TokenConformance.Proofs.CommandLine.Differences
import TokenConformance.Proofs.Suite.Files
import TokenConformance.Tokenizer.Scripted

/-!
# Inspected tests — an inspection agrees with a run and explains what it reports

An inspection reads one entry of a test file, while a run reads all of them; where all can be read, the
entry at an index gives the test at that index (`content_of_readTests`).  If no call fails, the
inspection goes through all states of the test (`states_of_answered`), and reports for each whether it
passes there, as the runner finds (`report_eq_passedText_iff`), or else every position and the lengths
that make the difference (`explains_report`).
-/

namespace TokenConformance

open Text (ofString)

/-! ## Definitions -/

namespace Inspect

section Defs

variable (tokenizer : Tokenizer) (test : TestCase) (state : TokenizerState)

/-- What an inspection reports where a test passes. -/
def passedText : Text := Text.line (ofString "\nPASSED")

/-- What an inspection shows of a state before it compares the tokens. -/
def shown : Text :=
  stateLine "\nAccumulator trace" state ++ traceText (Run.call tokenizer test state).events ++
    (stateLine "\nActual tokens" state ++ tokenLines (Run.call tokenizer test state).tokens)

/-- What an inspection reports of a test in a state. -/
def report : Text := (compare test.expected (Run.call tokenizer test state).tokens).text

/-- Positions and lengths explain why lists of tokens are not the same: the positions are, in order,
exactly those that both lists have and where the tokens differ, the lengths are there exactly if they
differ, and one or the other is there. -/
structure Explains (expected actual : List Token) (differing : List (Nat × Token × Token))
    (lengths? : Option (Nat × Nat)) : Prop where
  inOrder : differing.Pairwise fun d d' => d.1 < d'.1
  positions : ∀ i s t, (i, s, t) ∈ differing ↔
    expected[i]? = some s ∧ actual[i]? = some t ∧ s.same t = false
  lengths : ∀ m n, lengths? = some (m, n) ↔ m = expected.length ∧ n = actual.length ∧ m ≠ n
  nonempty : differing ≠ [] ∨ lengths? ≠ none

end Defs

/-! ## Comparisons -/

section Comparisons

variable {expected actual : List Token} {differing : List (Nat × Token × Token)}
  {lengths? : Option (Nat × Nat)}

theorem mismatchText_ne_passedText : mismatchText differing lengths? ≠ passedText := by
  intro heq
  have hmismatch : (mismatchText differing lengths?)[1]? = some (CodePoint.ofChar '!') := rfl
  have hpassed : passedText[1]? = some (CodePoint.ofChar 'P') := rfl
  rw [heq, hpassed] at hmismatch
  exact absurd hmismatch (by decide)

theorem text_compare_eq_passedText_iff :
    (compare expected actual).text = passedText ↔ Token.sameList expected actual = true := by
  cases hsame : Token.sameList expected actual with
  | true =>
    rw [compare_of_same hsame]
    exact iff_of_true rfl rfl
  | false =>
    rw [compare_of_not_same hsame, text_mismatch]
    exact iff_of_false mismatchText_ne_passedText nofun

/-- **A comparison explains every mismatch.** -/
theorem explains_of_not_same (h : Token.sameList expected actual = false) :
    ∃ differing lengths?, (compare expected actual).text = mismatchText differing lengths? ∧
      Explains expected actual differing lengths? := by
  refine ⟨_, _, by rw [compare_of_not_same h, text_mismatch],
    pairwise_differences 0 expected actual, fun i s t => mem_differences_iff, fun m n => ?_, ?_⟩
  · split
    · exact ⟨nofun, fun ⟨hm, hn, hne⟩ => by omega⟩
    · rename_i hlength
      rw [Option.some.injEq, Prod.mk.injEq]
      constructor
      · rintro ⟨rfl, rfl⟩
        exact ⟨rfl, rfl, hlength⟩
      · rintro ⟨rfl, rfl, -⟩
        exact ⟨rfl, rfl⟩
  · obtain hlength | ⟨i, s, t, hdiffer⟩ := Token.sameList_eq_false_iff.1 h
    · exact .inr (by rw [if_neg hlength]; exact nofun)
    · exact .inl (List.ne_nil_of_mem (mem_differences_iff.2 hdiffer))

end Comparisons

/-! ## States -/

section States

variable {tokenizer : Tokenizer} {test : TestCase}

theorem after_done (output output' : Text) :
    Inspection.after output (.done output') = .done (output ++ output') := rfl

/-- Where no call fails, an inspection goes through all states. -/
theorem states_of_answered {l : List TokenizerState}
    (h : ∀ state ∈ l, (Run.call tokenizer test state).failure? = none) :
    states tokenizer test l =
      .done (l.flatMap fun state => shown tokenizer test state ++ report tokenizer test state) := by
  induction l with
  | nil => rfl
  | cons state l ih =>
    obtain ⟨hstate, hrest⟩ := List.forall_mem_cons.1 h
    rw [Run.call] at hstate
    simp only [states, hstate, ih hrest, after_done, List.flatMap_cons, List.append_assoc, shown,
      report, Run.call]

/-- **An inspection reports a pass exactly where the runner finds one**, and explains the rest. -/
theorem report_agrees {state : TokenizerState}
    (h : (Run.call tokenizer test state).failure? = none) (options : RunOptions) :
    ∃ result, Run.runState options tokenizer test state = .ok result ∧
      (report tokenizer test state = passedText ↔ result.verdict = .pass) ∧
      (result.verdict ≠ .pass → ∃ differing lengths?,
        report tokenizer test state = mismatchText differing lengths? ∧
          Explains test.expected result.actual differing lengths?) := by
  have hactual : Run.actual? tokenizer test state =
      some (Run.call tokenizer test state).tokens := if_pos h
  refine ⟨_, Run.runState_of_failure?_eq_none h, ?_, ?_⟩
  · rw [report, text_compare_eq_passedText_iff]
    simp [Run.stateResult, Run.stateVerdict, hactual]
  · intro hverdict
    simp only [Run.stateResult, hactual, Option.getD_some]
    refine explains_of_not_same ?_
    by_contra hsame
    simp [Run.stateResult, Run.stateVerdict, hactual, hsame] at hverdict

end States

/-! ## Entries -/

section Entries

variable {items : List Json} {v entry : Json} {index : Nat} {test : TestCase}

theorem pick_arr (h : items[index]? = some v) : pick (.arr items) index = .ok (.found v) := by
  obtain ⟨hlt, -⟩ := List.getElem?_eq_some_iff.1 h
  have hinside : ¬ (items.length : Int) ≤ index := by omega
  have hpositive : ¬ (index : Int) < 0 := by omega
  simp only [pick, pickFrom, if_neg hinside, if_neg hpositive, Int.toNat_natCast, h]

/-- Only arrays have entries that are tests. -/
theorem eq_arr_of_iterate (hitems : v.iterate = .ok items) (hentry : entry ∈ items)
    (htest : TestCase.ofEntry entry = .ok test) : v = .arr items := by
  cases v with
  | arr items' =>
    cases hitems
    rfl
  | str t =>
    cases hitems
    obtain ⟨c, -, rfl⟩ := List.mem_map.1 hentry
    cases htest
  | obj members =>
    cases hitems
    obtain ⟨p, -, rfl⟩ := List.mem_map.1 hentry
    cases htest
  | _ => cases hitems

/-- The test at an index is read from the entry at that index. -/
theorem entry_of_listOf {file : Json} {tests : List TestCase}
    (h : TestCase.listOf file = .ok tests) (htest : tests[index]? = some test) :
    ∃ v, TestCase.entries file >>= (pick · index) = .ok (.found v) ∧
      TestCase.ofEntry v = .ok test := by
  obtain ⟨v, hv, h⟩ := Except.bind_eq_ok_iff.1 h
  obtain ⟨items, hitems, h⟩ := Except.bind_eq_ok_iff.1 h
  rw [Except.mapError_eq_ok_iff] at hv hitems
  rw [Except.mapM_eq_ok_iff] at h
  obtain ⟨hlt, rfl⟩ := List.getElem?_eq_some_iff.1 htest
  have hlt' : index < items.length := h.length_eq ▸ hlt
  have hentry : TestCase.ofEntry items[index] = .ok tests[index] := h.get hlt' hlt
  have harr := eq_arr_of_iterate hitems (List.getElem_mem hlt') hentry
  refine ⟨items[index], Except.bind_eq_ok_iff.2 ⟨v, hv, ?_⟩, hentry⟩
  rw [harr]
  exact pick_arr (List.getElem?_eq_getElem hlt')

theorem content_of_readTests {registry : Registry} {spec fileContent filename : Text}
    {tests : List TestCase} (h : Suite.readTests fileContent = .ok tests)
    (htest : tests[index]? = some test) :
    content registry spec fileContent filename index =
      Inspect.test registry spec test filename index := by
  obtain ⟨file, hfile, h⟩ := Except.bind_eq_ok_iff.1 h
  obtain ⟨v, hv, htest⟩ := entry_of_listOf (Except.mapError_eq_ok_iff.1 h) htest
  simp only [content, hfile, hv, htest]

end Entries

/-! ## Inspections -/

section Inspections

variable {registry : Registry} {tree : FileTree} {spec filename : Text} {index : Nat}
  {loaded : LoadedFile} {test : TestCase} {tokenizer : Tokenizer}

/-- **An inspection of a test that can be loaded agrees with the runner and explains every mismatch.**
It shows the test, then each of its states with a report at the end.  The report says that the test
passed exactly if the runner finds that it does; otherwise it has a line for each position, below both
lengths, at which the tokens differ, and one for the lengths exactly if they differ, at least one line in
all. -/
theorem inspect_agrees_with_runner {file : TestFile}
    (hpath : file.path = defaultTestDirectory.join (.ofText filename))
    (hloaded : Suite.loadFile tree file = .ok loaded) (htest : loaded.tests[index]? = some test)
    (htokenizer : registry.load spec = .ok tokenizer)
    (hanswered : ∀ state ∈ test.initialStates, (Run.call tokenizer test state).failure? = none) :
    inspect registry tree spec filename index =
        .done (heading test filename index ++ test.initialStates.flatMap fun state =>
          shown tokenizer test state ++ report tokenizer test state) ∧
      ∀ state ∈ test.initialStates, ∀ options,
        ∃ result, Run.runState options tokenizer test state = .ok result ∧
          (report tokenizer test state = passedText ↔ result.verdict = .pass) ∧
          (result.verdict ≠ .pass → ∃ differing lengths?,
            report tokenizer test state = mismatchText differing lengths? ∧
              Explains test.expected result.actual differing lengths?) := by
  refine ⟨?_, fun state hstate => report_agrees (hanswered state hstate)⟩
  rw [Suite.loadFile, hpath] at hloaded
  rw [inspect]
  split at hloaded
  · rename_i content hlocate
    obtain ⟨tests, htests, rfl⟩ := Except.map_eq_ok_iff.1 hloaded
    simp only [hlocate, content_of_readTests htests htest, Inspect.test, htokenizer,
      states_of_answered hanswered, after_done]
  · cases hloaded
  · cases hloaded

/-- Two comments are expected where there is another one. -/
def mismatchTree : FileTree :=
  ⟨[([ofString "html5lib-tests", ofString "tokenizer", ofString "a.test"],
    ofString "\x7b\"tests\":[\x7b\"input\":\"<!--a-->\"," ++
      ofString "\"output\":[[\"Comment\",\"b\"],[\"Comment\",\"c\"]]\x7d]\x7d")],
    [], [ofString "harness"]⟩

def standInRegistry : Registry :=
  [(ofString "sample", [(ofString "tokenize", .tokenizer standIn)])]

/-- Of two expected comments the first is another one, and the second is not delivered: two lines. -/
theorem inspect_agrees_with_runner_mismatch :
    let file : TestFile := ⟨.ofText (ofString "a.test"),
      defaultTestDirectory.join (.ofText (ofString "a.test"))⟩
    ∃ loaded test, Suite.loadFile mismatchTree file = .ok loaded ∧ loaded.tests[0]? = some test ∧
      standInRegistry.load (ofString "sample:tokenize") = .ok standIn ∧
      (∀ state ∈ test.initialStates, (Run.call standIn test state).failure? = none) ∧
      inspect standInRegistry mismatchTree (ofString "sample:tokenize") (ofString "a.test") 0 =
        .done (heading test (ofString "a.test") 0 ++ test.initialStates.flatMap fun state =>
          shown standIn test state ++ report standIn test state) ∧
      ∀ state ∈ test.initialStates, report standIn test state =
        mismatchText [(0, .comment (ofString "b"), .comment (ofString "a"))] (some (2, 1)) := by
  intro file
  have hsample : ∃ loaded, Suite.loadFile mismatchTree file = .ok loaded ∧
      (∀ test ∈ loaded.tests, ∀ state ∈ test.initialStates,
        (Run.call standIn test state).failure? = none ∧
          compare test.expected (Run.call standIn test state).tokens =
            .mismatch [(0, .comment (ofString "b"), .comment (ofString "a"))] (some (2, 1))) ∧
      loaded.tests.length = 1 := by decide +kernel
  obtain ⟨loaded, hloaded, htests, hlength⟩ := hsample
  obtain ⟨test, htest⟩ := List.length_eq_one_iff.1 hlength
  have hfirst : loaded.tests[0]? = some test := by rw [htest]; rfl
  have hstates := htests test (List.mem_of_getElem? hfirst)
  have htokenizer : standInRegistry.load (ofString "sample:tokenize") = .ok standIn := rfl
  have hpath : file.path = defaultTestDirectory.join (.ofText (ofString "a.test")) := rfl
  have hinspect := inspect_agrees_with_runner hpath hloaded hfirst htokenizer
    fun state hstate => (hstates state hstate).1
  refine ⟨loaded, test, hloaded, hfirst, htokenizer, fun state hstate => (hstates state hstate).1,
    hinspect.1, fun state hstate => ?_⟩
  rw [report, (hstates state hstate).2, text_mismatch]

end Inspections

end Inspect

end TokenConformance
