import TokenConformance.Proofs.Run.Verdicts

/-!
# Trails — which tests a run executes, and where it stops

The `trail` of tests in a row lists those that are executed, and says why no more of them are.  Rows
may be run one after another (`trail_append_of_none`, `trail_append_of_stop`).  Unless something breaks
the run, the executed tests are those taken, through the first one that cuts it
(`trail_fst_of_unbroken`).
-/

namespace TokenConformance

/-- A test where it stands: the name of its file, and its index there. -/
structure Placed where
  name : Text
  index : Nat
  test : TestCase

/-- Tests in a row from an index of a file on. -/
def Placed.row (name : Text) (index : Nat) (tests : List TestCase) : List Placed :=
  (tests.zipIdx index).map fun p => ⟨name, p.2, p.1⟩

/-- The tests of a file where they stand. -/
def LoadedFile.placed (loaded : LoadedFile) : List Placed :=
  Placed.row loaded.file.path.fileName 0 loaded.tests

/-- The items of a list through the first with a property. -/
def throughFirst {α : Type} (p : α → Bool) (l : List α) : List α := l.take (l.findIdx p + 1)

namespace Run

/-! ### Executed tests -/

section Defs

variable (options : RunOptions) (tokenizer : Tokenizer)

/-- Whether a test is executed in its turn. -/
def turn (p : Placed) : Except RunError Bool :=
  match options.takesTest p.name p.index p.test with
  | .error e => .error (.selection e)
  | .ok false => .ok false
  | .ok true =>
    match runTest options tokenizer p.test with
    | .error e => .error (.call e)
    | .ok _ => .ok true

/-- Whether the options take a test. -/
def takes (p : Placed) : Bool := (options.takesTest p.name p.index p.test).toOption == some true

/-- Whether a run ends at a test that is executed. -/
def cuts (p : Placed) : Bool := options.failFast && verdict tokenizer p.test == .fail

/-- The tests that are executed, one after another, and why no more of them are. -/
def trail : List Placed → List Placed × Option Stop
  | [] => ([], none)
  | p :: rest =>
    match turn options tokenizer p with
    | .error e => ([], some (.broken e))
    | .ok false => trail rest
    | .ok true =>
      if cuts options tokenizer p then ([p], some .failFast)
      else (p :: (trail rest).1, (trail rest).2)

end Defs

end Run

/-! ### Through the first -/

section ThroughFirst

variable {α : Type} {p : α → Bool} {a : α} {l : List α}

theorem throughFirst_cons_of_pos (h : p a = true) : throughFirst p (a :: l) = [a] := by
  simp [throughFirst, List.findIdx_cons, h]

theorem throughFirst_cons_of_neg (h : ¬ p a = true) :
    throughFirst p (a :: l) = a :: throughFirst p l := by
  simp [throughFirst, List.findIdx_cons, h]

theorem throughFirst_eq_self (h : ∀ a ∈ l, p a = false) : throughFirst p l = l := by
  refine List.take_of_length_le ?_
  rw [List.findIdx_eq_length_of_false h]
  exact Nat.le_succ _

theorem throughFirst_eq_self_of_mem : ∀ {l : List α}, (∀ a ∈ throughFirst p l, p a = false) →
    throughFirst p l = l
  | [], _ => rfl
  | a :: l, h => by
    by_cases ha : p a = true
    · rw [throughFirst_cons_of_pos ha] at h
      rw [h a List.mem_cons_self] at ha
      cases ha
    · rw [throughFirst_cons_of_neg ha] at h ⊢
      rw [throughFirst_eq_self_of_mem fun b hb => h b (List.mem_cons_of_mem _ hb)]

end ThroughFirst

namespace Run

variable {options : RunOptions} {tokenizer : Tokenizer}

/-! ### One test after another -/

section Turn

variable {p : Placed} {ps qs rest : List Placed} {e : RunError} {s : Stop} {b : Bool}

theorem trail_of_error (h : turn options tokenizer p = .error e) :
    trail options tokenizer (p :: rest) = ([], some (.broken e)) := by
  rw [trail, h]

theorem trail_of_left (h : turn options tokenizer p = .ok false) :
    trail options tokenizer (p :: rest) = trail options tokenizer rest := by
  rw [trail, h]

theorem trail_of_cut (h : turn options tokenizer p = .ok true)
    (hcut : cuts options tokenizer p = true) :
    trail options tokenizer (p :: rest) = ([p], some .failFast) := by
  rw [trail, h]
  exact if_pos hcut

theorem trail_of_kept (h : turn options tokenizer p = .ok true)
    (hcut : ¬ cuts options tokenizer p = true) :
    trail options tokenizer (p :: rest) =
      (p :: (trail options tokenizer rest).1, (trail options tokenizer rest).2) := by
  rw [trail, h]
  exact if_neg hcut

theorem cuts_iff : cuts options tokenizer p = true ↔
    options.failFast = true ∧ verdict tokenizer p.test = .fail := by
  rw [cuts, Bool.and_eq_true, beq_iff_eq]

theorem turn_eq_ok_true_iff : turn options tokenizer p = .ok true ↔
    options.takesTest p.name p.index p.test = .ok true ∧ Answers tokenizer p.test := by
  unfold turn
  split
  · rename_i htakes
    simp [htakes]
  · rename_i htakes
    simp [htakes]
  · rename_i htakes
    split
    · rename_i hrun
      refine ⟨nofun, fun h => ?_⟩
      rw [runTest_eq_ok_iff.2 ⟨h.2, rfl⟩] at hrun
      cases hrun
    · rename_i found hrun
      exact ⟨fun _ => ⟨htakes, (runTest_eq_ok_iff.1 hrun).1⟩, fun _ => rfl⟩

/-- A row of tests goes on into the next row unless it is stopped. -/
theorem trail_append : trail options tokenizer (ps ++ qs) =
    match (trail options tokenizer ps).2 with
    | some _ => trail options tokenizer ps
    | none =>
      ((trail options tokenizer ps).1 ++ (trail options tokenizer qs).1,
        (trail options tokenizer qs).2) := by
  induction ps using trail.induct options tokenizer with
  | case1 => rfl
  | case2 p ps e hturn => rw [List.cons_append, trail_of_error hturn, trail_of_error hturn]
  | case3 p ps hturn ih => rw [List.cons_append, trail_of_left hturn, trail_of_left hturn, ih]
  | case4 p ps hturn hcut =>
    rw [List.cons_append, trail_of_cut hturn hcut, trail_of_cut hturn hcut]
  | case5 p ps hturn hcut ih =>
    rw [List.cons_append, trail_of_kept hturn hcut, trail_of_kept hturn hcut, ih]
    cases hstop : (trail options tokenizer ps).2 with
    | some s => exact Prod.ext rfl hstop
    | none => rfl

theorem trail_append_of_stop (h : (trail options tokenizer ps).2 = some s) :
    trail options tokenizer (ps ++ qs) = trail options tokenizer ps := by
  rw [trail_append, h]

theorem trail_append_of_none (h : (trail options tokenizer ps).2 = none) :
    trail options tokenizer (ps ++ qs) =
      ((trail options tokenizer ps).1 ++ (trail options tokenizer qs).1,
        (trail options tokenizer qs).2) := by
  rw [trail_append, h]

/-- Fail-fast has stopped a run exactly if a test that cuts it was executed. -/
theorem trail_eq_failFast_iff : (trail options tokenizer ps).2 = some .failFast ↔
    ∃ p ∈ (trail options tokenizer ps).1, cuts options tokenizer p = true := by
  induction ps using trail.induct options tokenizer with
  | case1 => exact ⟨nofun, nofun⟩
  | case2 p ps e hturn =>
    rw [trail_of_error hturn]
    exact ⟨nofun, nofun⟩
  | case3 p ps hturn ih => rwa [trail_of_left hturn]
  | case4 p ps hturn hcut =>
    rw [trail_of_cut hturn hcut]
    exact iff_of_true rfl ⟨p, List.mem_singleton_self p, hcut⟩
  | case5 p ps hturn hcut ih =>
    rw [trail_of_kept hturn hcut]
    simp only [List.mem_cons, exists_eq_or_imp, or_iff_right hcut]
    exact ih

/-- A run that nothing has stopped has executed no test that cuts it. -/
theorem cuts_of_trail_eq_none (h : (trail options tokenizer ps).2 = none) :
    ∀ p ∈ (trail options tokenizer ps).1, cuts options tokenizer p = false := by
  intro p hp
  by_contra hcut
  have hstop := trail_eq_failFast_iff.2 ⟨p, hp, eq_true_of_ne_false hcut⟩
  rw [h] at hstop
  cases hstop

/-- A run is broken at one of its tests. -/
theorem exists_turn_of_trail_eq_broken (h : (trail options tokenizer ps).2 = some (.broken e)) :
    ∃ p ∈ ps, turn options tokenizer p = .error e := by
  induction ps using trail.induct options tokenizer with
  | case1 => cases h
  | case2 p ps e hturn =>
    rw [trail_of_error hturn] at h
    cases h
    exact ⟨p, List.mem_cons_self, hturn⟩
  | case3 p ps hturn ih =>
    rw [trail_of_left hturn] at h
    obtain ⟨q, hq, hbroken⟩ := ih h
    exact ⟨q, List.mem_cons_of_mem _ hq, hbroken⟩
  | case4 p ps hturn hcut =>
    rw [trail_of_cut hturn hcut] at h
    cases h
  | case5 p ps hturn hcut ih =>
    rw [trail_of_kept hturn hcut] at h
    obtain ⟨q, hq, hbroken⟩ := ih h
    exact ⟨q, List.mem_cons_of_mem _ hq, hbroken⟩

theorem turn_of_mem_trail (h : p ∈ (trail options tokenizer ps).1) :
    p ∈ ps ∧ turn options tokenizer p = .ok true := by
  induction ps using trail.induct options tokenizer with
  | case1 => cases h
  | case2 q ps e hturn =>
    rw [trail_of_error hturn] at h
    cases h
  | case3 q ps hturn ih =>
    rw [trail_of_left hturn] at h
    exact (ih h).imp_left (List.mem_cons_of_mem _)
  | case4 q ps hturn hcut =>
    rw [trail_of_cut hturn hcut, List.mem_singleton] at h
    rw [h]
    exact ⟨List.mem_cons_self, hturn⟩
  | case5 q ps hturn hcut ih =>
    rw [trail_of_kept hturn hcut, List.mem_cons] at h
    obtain rfl | h := h
    · exact ⟨List.mem_cons_self, hturn⟩
    · exact (ih h).imp_left (List.mem_cons_of_mem _)

theorem takes_eq (h : turn options tokenizer p = .ok b) : takes options p = b := by
  unfold takes
  cases b with
  | true =>
    rw [(turn_eq_ok_true_iff.1 h).1]
    rfl
  | false =>
    unfold turn at h
    split at h
    · cases h
    · rename_i htakes
      rw [htakes]
      rfl
    · split at h <;> cases h

/-- **Unless something breaks it, a run executes the tests taken through the first that cuts it.** -/
theorem trail_fst_of_unbroken (h : ∀ e, (trail options tokenizer ps).2 ≠ some (.broken e)) :
    (trail options tokenizer ps).1 =
      throughFirst (cuts options tokenizer) (ps.filter (takes options)) := by
  induction ps using trail.induct options tokenizer with
  | case1 => rfl
  | case2 p ps e hturn =>
    rw [trail_of_error hturn] at h
    exact absurd rfl (h e)
  | case3 p ps hturn ih =>
    rw [trail_of_left hturn] at h ⊢
    rw [List.filter_cons_of_neg (by rw [takes_eq hturn]; nofun), ih h]
  | case4 p ps hturn hcut =>
    rw [trail_of_cut hturn hcut, List.filter_cons_of_pos (takes_eq hturn),
      throughFirst_cons_of_pos hcut]
  | case5 p ps hturn hcut ih =>
    rw [trail_of_kept hturn hcut] at h ⊢
    rw [List.filter_cons_of_pos (takes_eq hturn), throughFirst_cons_of_neg hcut, ih h]

end Turn

end Run

end TokenConformance
