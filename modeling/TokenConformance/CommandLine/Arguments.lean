import TokenConformance.CommandLine.Classify
import TokenConformance.Run.Options
import TokenConformance.Suite.Path

/-!
# Command lines — what a run is asked to do

Options are taken in order, and a later one overrides an earlier one.  A setting takes the argument
directly behind it, or all of them where it takes many.  A double dash joined to a setting stands
for no argument at all.  Arguments that nothing takes and options that do not exist make the command
line unusable, unless it asks for help before an error.
-/

namespace TokenConformance

/-- What a command line asks for.  The tokenizer and the test directory are missing where they were
set to no argument. -/
structure Arguments where
  tokenizer : Option Text
  testDirectory : Option Path
  options : RunOptions
  deriving DecidableEq

/-- How reading a command line ends without arguments. -/
inductive UsageStop
  /-- Help was asked for. -/
  | help
  /-- The command line cannot be used. -/
  | error
  deriving DecidableEq, Repr

/-- The directory that is searched by default. -/
def defaultTestDirectory : Path := .ofText (Text.ofString "../html5lib-tests/tokenizer")

/-- What has been read of a command line; `leftOver` says that something in it was not used. -/
structure Reading where
  tokenizer : Option (Option Text)
  testDirectory : Option Path
  options : RunOptions
  leftOver : Bool

namespace Reading

/-- Nothing read yet. -/
def start : Reading := ⟨none, some defaultTestDirectory, .default, false⟩

/-- The parts of an argument that a comma separates.  Without an argument, or where it is empty,
there are none. -/
def commaParts : Option Text → Option (List Text)
  | none => none
  | some t => if t.isEmpty then none else some (Text.splitOn ',' t)

/-- Carries out a flag. -/
def raise (r : Reading) : Flag → Except UsageStop Reading
  | .help => .error .help
  | .failFast => .ok { r with options := { r.options with failFast := true } }
  | .quiet => .ok { r with options := { r.options with quiet := true } }
  | .verbose => .ok { r with options := { r.options with verbosity := r.options.verbosity + 1 } }

/-- Carries out a setting with its arguments; a setting that takes one looks at the first. -/
def set (r : Reading) (name : Setting) (arguments : List Text) : Reading :=
  let parts := commaParts arguments.head?
  match name with
  | .tokenizer => { r with tokenizer := some arguments.head? }
  | .testDir => { r with testDirectory := arguments.head?.map .ofText }
  | .testSpecs => { r with options := { r.options with testSpecs := arguments } }
  | .filterFiles => { r with options := { r.options with filterFiles := some arguments } }
  | .excludeFiles => { r with options := { r.options with excludeFiles := parts } }
  | .excludeInputs => { r with options := { r.options with excludeInputs := parts } }
  | .filterInputs => { r with options := { r.options with filterInputs := parts } }

/-- Notes that something was left over, if there was. -/
def leave (r : Reading) (something : Bool) : Reading :=
  { r with leftOver := r.leftOver || something }

/-- Carries out the flags that letters stand for.  There has to be a letter, and all of them have to
be flags before any is carried out. -/
def raiseLetters (r : Reading) (f : Flag) (letters : Text) : Except UsageStop Reading :=
  match letters, letters.mapM Flag.ofLetter? with
  | _ :: _, some flags => (f :: flags).foldlM raise r
  | _, _ => .error .error

/-- Reads one word with the arguments directly behind it. -/
def word (r : Reading) (w : Word) (arguments : List Text) : Except UsageStop Reading :=
  match w with
  | .argument _ | .doubleDash | .unknown => .ok (r.leave true)
  | .letters f rest => do return (← r.raiseLetters f rest).leave (!arguments.isEmpty)
  | .option (.flag f) => do return (← r.raise f).leave (!arguments.isEmpty)
  | .joined (.flag _) _ => .error .error
  | .joined (.setting s) value =>
    let joined := if value = Text.ofString "--" then [] else [value]
    .ok ((r.set s joined).leave (!arguments.isEmpty))
  | .option (.setting s) =>
    match arguments with
    | [] => .error .error
    | value :: others =>
      if s.takesMany then .ok (r.set s (value :: others))
      else .ok ((r.set s [value]).leave (!others.isEmpty))

end Reading

/-- The arguments at the start of a command line, and every other word with the arguments directly
behind it. -/
def Word.group : List Word → List Text × List (Word × List Text)
  | [] => ([], [])
  | .argument t :: rest =>
    let (arguments, groups) := group rest
    (t :: arguments, groups)
  | w :: rest =>
    let (arguments, groups) := group rest
    ([], (w, arguments) :: groups)

/-- Reads a command line. -/
def Arguments.parse (line : List Text) : Except UsageStop Arguments :=
  match Word.ofTexts? line with
  | none => .error .error
  | some words => do
    let (leading, groups) := Word.group words
    let start := Reading.start.leave (!leading.isEmpty)
    let r ← groups.foldlM (fun r (w, arguments) => r.word w arguments) start
    match r.tokenizer with
    | none => throw .error
    | some tokenizer =>
      if r.leftOver then throw .error
      else return ⟨tokenizer, r.testDirectory, r.options⟩

end TokenConformance
