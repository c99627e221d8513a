import TokenConformance.Text.CodePoint

/-!
# Help — what a command line can ask for

The usage names the options in one paragraph that hangs behind the name of the program.  Below it
stands a line or more on each option.
-/

namespace TokenConformance

namespace Help

open Text (ofString)

/-- The number of columns of a line of the usage. -/
def width : Nat := 78

/-- Parts one behind another, from a column on.  A part that passes the last column starts a new
line, which is set in as far as the first one was. -/
def fill (indent : Nat) : (column : Nat) → List Text → Text
  | _, [] => []
  | column, part :: rest =>
    if width < column + 1 + part.length then
      Text.line [] ++ List.replicate (indent + 1) 0x20 ++ part ++
        fill indent (indent + 1 + part.length) rest
    else 0x20 :: part ++ fill indent (column + 1 + part.length) rest

/-- The parts of the usage. -/
def parts : List String :=
  ["[-h]", "--tokenizer", "TOKENIZER", "[--test-dir TEST_DIR]", "[-x]",
    "[--test-specs TEST_SPECS [TEST_SPECS ...]]", "[--filter-files FILTER_FILES [FILTER_FILES ...]]",
    "[-v]", "[-q]", "[--exclude-files EXCLUDE_FILES]", "[--exclude-html EXCLUDE_HTML]",
    "[--filter-html FILTER_HTML]"]

/-- How the program is used. -/
def usage (program : Text) : Text :=
  let start := ofString "usage: " ++ program
  Text.line (start ++ fill start.length start.length (parts.map ofString))

/-- What the program does, and each of its options. -/
def description : List String :=
  ["Run html5lib tokenizer conformance files against a tokenizer.",
    "",
    "options:",
    "  -h, --help            show this help message and exit",
    "  --tokenizer TOKENIZER",
    "                        Tokenizer under test as module:callable, called as",
    "                        tokenize(input, text_type, last_start_tag)",
    "  --test-dir TEST_DIR   Directory searched recursively for *.test files",
    "                        (default: ../html5lib-tests/tokenizer)",
    "  -x, --fail-fast       Break on first test failure",
    "  --test-specs TEST_SPECS [TEST_SPECS ...]",
    "                        Space-separated list of test specs in format:",
    "                        file:indices (e.g., test1.test:0,1,2 test2.test:5,6)",
    "  --filter-files FILTER_FILES [FILTER_FILES ...]",
    "                        Only run tests from files containing any of these",
    "                        strings (space-separated)",
    "  -v, --verbose         Increase verbosity: -v show failing token lists; -vv",
    "                        add the accumulator trace for failures",
    "  -q, --quiet           Quiet mode: only print the header line. A full run",
    "                        still writes the detailed summary to test-summary.txt",
    "  --exclude-files EXCLUDE_FILES",
    "                        Skip files containing any of these strings in their",
    "                        names (comma-separated)",
    "  --exclude-html EXCLUDE_HTML",
    "                        Skip tests containing any of these strings in their",
    "                        input (comma-separated)",
    "  --filter-html FILTER_HTML",
    "                        Only run tests containing any of these strings in",
    "                        their input (comma-separated)"]

/-- The help of a program of the given name. -/
def text (program : Text) : Text :=
  usage program ++ Text.line [] ++ description.flatMap fun s => Text.line (ofString s)

end Help

end TokenConformance
