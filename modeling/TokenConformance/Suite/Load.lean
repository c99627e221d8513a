import TokenConformance.Json.Reader
import TokenConformance.NaturalOrder
import TokenConformance.Suite.FileTree
import TokenConformance.Suite.TestCase
import TokenConformance.Text.Utf8

/-!
# Loading test files — from the files of a directory to their tests

Test files are those whose names end with `.test`, at any depth below the test directory.  They are
put in natural order of their paths, and all of them are read before any test runs.
-/

namespace TokenConformance

/-- Why a test file cannot be loaded. -/
inductive LoadError
  /-- It is a directory. -/
  | directory
  /-- Its path is too long. -/
  | pathTooLong
  /-- It is not UTF-8. -/
  | encoding
  | json (e : JsonError)
  | test (e : TestError)

/-- A test file: its path from the test directory, and its whole path. -/
structure TestFile where
  relative : Path
  path : Path
  deriving DecidableEq

/-- A test file with its tests. -/
structure LoadedFile where
  file : TestFile
  tests : List TestCase

namespace Suite

open Text (ofString)

/-- The JSON value that a test file holds. -/
def readJson (content : Text) : Except LoadError Json :=
  (Json.parse (Text.unifyLineEnds content)).mapError .json

/-- The tests in the text of a test file. -/
def readTests (content : Text) : Except LoadError (List TestCase) := do
  (TestCase.listOf (← readJson content)).mapError .test

/-- The tests in the bytes of a test file. -/
def readBytes (bytes : List UInt8) : Except LoadError (List TestCase) :=
  match Text.ofUtf8? bytes with
  | some content => readTests content
  | none => .error .encoding

/-- The test files below a directory, in no particular order.  A directory that does not exist has
none.  All directories below it are searched, so the path of none may be too long. -/
def testFiles (tree : FileTree) (directory : Path) : Except LoadError (List TestFile) :=
  match tree.locate directory with
  | some (.directory names) =>
    let searched := (tree.directoriesBelow names).map fun way => directory.join ⟨[], way⟩
    if searched.any FileTree.isTooLong then .error .pathTooLong
    else
      .ok <| ((tree.below names).map (Path.mk [])).filterMap fun relative =>
        if relative.fileName.endsWith (ofString ".test") then
          some ⟨relative, directory.join relative⟩
        else none
  | some .tooLong => .error .pathTooLong
  | _ => .ok []

/-- Test files in natural order of their paths. -/
def sortFiles (files : List TestFile) : Except NaturalError (List TestFile) :=
  Natural.sortBy (fun file => file.path.toText) files

/-- Reads a test file. -/
def loadFile (tree : FileTree) (file : TestFile) : Except LoadError LoadedFile :=
  match tree.locate file.path with
  | some (.file content) => (readTests content).map (⟨file, ·⟩)
  | some .tooLong => .error .pathTooLong
  | _ => .error .directory

end Suite

end TokenConformance
