import TokenConformance.Suite.TestCase

/-!
# Run options — which tests a run takes and what it prints

Files are taken or left by parts of their names, tests by a list of specs and by parts of their
inputs.  A filter that is an empty list is no filter.
-/

namespace TokenConformance

/-- The options of a run. -/
structure RunOptions where
  failFast : Bool
  testSpecs : List Text
  filterFiles : Option (List Text)
  quiet : Bool
  excludeFiles : Option (List Text)
  excludeInputs : Option (List Text)
  filterInputs : Option (List Text)
  verbosity : Nat
  deriving DecidableEq

namespace RunOptions

/-- No filters, no output beyond the summary. -/
def default : RunOptions := ⟨false, [], none, false, none, none, none, 0⟩

/-- The parts that a filter looks for. -/
def parts (filter : Option (List Text)) : List Text := filter.getD []

/-- Whether nothing narrows the run by its files or its tests. -/
def isFullRun (options : RunOptions) : Bool :=
  options.testSpecs.isEmpty && (parts options.filterFiles).isEmpty &&
    (parts options.excludeFiles).isEmpty && (parts options.excludeInputs).isEmpty &&
    (parts options.filterInputs).isEmpty

/-- Whether a file with the given name is taken. -/
def takesFile (options : RunOptions) (name : Text) : Bool :=
  let excluded := parts options.excludeFiles
  let wanted := parts options.filterFiles
  !(excluded.any fun part => part.occursIn name) &&
    (wanted.isEmpty || wanted.any fun part => part.occursIn name)

/-- Whether a spec, a file name and indices behind a colon, names the test. -/
def specNames (spec name : Text) (index : Nat) : Bool :=
  match Text.splitAtFirst? ':' spec with
  | none => false
  | some (file, indices) => file == name && (Text.splitOn ',' indices).contains (Text.ofNat index)

/-- Whether one of the parts occurs in a value, looked for in order up to the first that does. -/
def anyOccurs (v : Json) : (parts : List Text) → Except Misuse Bool
  | [] => .ok false
  | part :: rest => do if ← v.search part then return true else anyOccurs v rest

/-- Whether a test is taken. -/
def takesTest (options : RunOptions) (name : Text) (index : Nat) (test : TestCase) :
    Except Misuse Bool := do
  if !options.testSpecs.isEmpty &&
      !(options.testSpecs.any fun spec => specNames spec name index) then return false
  if ← anyOccurs test.input (parts options.excludeInputs) then return false
  let wanted := parts options.filterInputs
  if wanted.isEmpty then return true
  anyOccurs test.input wanted

end RunOptions

end TokenConformance
