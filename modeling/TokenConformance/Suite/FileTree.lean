import TokenConformance.Suite.Path
import TokenConformance.Text.Utf8

/-!
# File trees — the files that a run can see

A `FileTree` lists files with their contents and knows the directory that relative paths start
from.  A directory exists where files lie in it and where the tree names it, and so do those above
it.  Names and paths that are too long cannot be looked up at all.

Names are bytes.  Where they are not UTF-8, the code points from U+DC80 to U+DCFF stand for the bytes
from 80 to FF.
-/

namespace TokenConformance

/-- Whether a code point stands for a byte that is not UTF-8. -/
def CodePoint.isStrayByte (c : CodePoint) : Bool := 0xDC80 ≤ c.val && c.val ≤ 0xDCFF

namespace Text

/-- Whether a text can be the name or the path of a file: it holds no null character and no surrogate
that is not a stray byte. -/
def isNameable (t : Text) : Bool :=
  t.all fun c => c.val != 0 && (c.isStrayByte || !c.isSurrogate)

/-- The number of bytes of a name or path. -/
def nameSize (t : Text) : Nat :=
  t.foldl (fun size c => size + if c.isStrayByte then 1 else utf8SizeOf c) 0

end Text

/-- Files by their names from the top of the tree, directories that exist with or without files in
them, and the working directory, which always exists. -/
structure FileTree where
  files : List (List Text × Text)
  directories : List (List Text)
  working : List Text
  deriving DecidableEq

/-- What a path leads to. -/
inductive Located
  | file (content : Text)
  | directory (names : List Text)
  /-- The directory above all others, of whose contents nothing is known. -/
  | root
  /-- Looking the path up fails on its length. -/
  | tooLong
  deriving DecidableEq

namespace FileTree

/-- Whether there is a directory with the given names. -/
def isDirectory (tree : FileTree) (names : List Text) : Bool :=
  (tree.working :: tree.directories).any (names.isPrefixOf ·) ||
    tree.files.any fun f => names.isPrefixOf f.1 && names.length < f.1.length

/-- What stands under the given names. -/
def at? (tree : FileTree) (names : List Text) : Option Located :=
  match tree.files.lookup names with
  | some content => some (.file content)
  | none => if tree.isDirectory names then some (.directory names) else none

/-- The longest name of a file or directory, in bytes. -/
def maxNameSize : Nat := 255

/-- The longest path, in bytes. -/
def maxPathSize : Nat := 4095

/-- One step along a path; a double dot leads to the directory above. -/
def step (tree : FileTree) (located : Located) (name : Text) : Option Located :=
  match located with
  | .file _ => none
  | .tooLong => some .tooLong
  | .root =>
    if name = Text.ofString ".." then some .root
    else if maxNameSize < name.nameSize then some .tooLong
    else none
  | .directory names =>
    if name = Text.ofString ".." then tree.at? names.dropLast
    else if maxNameSize < name.nameSize then some .tooLong
    else tree.at? (names ++ [name])

/-- Whether a path is too long to be looked up. -/
def isTooLong (path : Path) : Bool := maxPathSize < path.toText.nameSize

/-- What a path leads to. -/
def locate (tree : FileTree) (path : Path) : Option Located :=
  if !path.toText.isNameable then none
  else if isTooLong path then some .tooLong
  else
    let start := if path.root.isEmpty then .directory tree.working else .root
    path.names.foldlM tree.step start

/-- The ways from a directory to everything below it, each file and each directory once. -/
def below (tree : FileTree) (directory : List Text) : List (List Text) :=
  let entries := tree.files.map Prod.fst ++ tree.working :: tree.directories
  let inside := entries.filterMap fun names =>
    if directory.isPrefixOf names then some (names.drop directory.length) else none
  (inside.flatMap fun names => (List.range names.length).map fun i => names.take (i + 1)).eraseDups

/-- The ways from a directory to the directories below it. -/
def directoriesBelow (tree : FileTree) (directory : List Text) : List (List Text) :=
  (tree.below directory).filter fun names => tree.isDirectory (directory ++ names)

/-- The names that are left when each double dot has taken away the name in front of it. -/
def resolve (names : List Text) : List Text :=
  names.foldl (fun above name =>
    if name = Text.ofString ".." then above.dropLast else above ++ [name]) []

/-- The tree of a working directory without files. -/
def empty (working : List Text) : FileTree := ⟨[], [], working⟩

/-- The tree with one more directory. -/
def addDirectory (tree : FileTree) (names : List Text) : FileTree :=
  { tree with directories := tree.directories ++ [resolve names] }

/-- The tree with one more file. -/
def add (tree : FileTree) (names : List Text) (content : Text) : FileTree :=
  let names := resolve names
  { tree with files := tree.files.filter (fun f => f.1 != names) ++ [(names, content)] }

end FileTree

end TokenConformance
