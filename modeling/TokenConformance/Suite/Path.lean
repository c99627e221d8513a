import TokenConformance.Text.CodePoint

/-!
# Paths — names of files and directories

A path is a list of names, below a root or relative.  Empty names and single dots are left out when
a path is read; double dots stay, since what they mean depends on the directory tree.
-/

namespace TokenConformance

/-- A path; `root` is empty for a relative one. -/
structure Path where
  root : Text
  names : List Text
  deriving DecidableEq

namespace Path

open Text (ofString)

/-- The root that a path starts with: exactly two slashes are a root of their own. -/
def rootOf (t : Text) : Text :=
  match (t.takeWhile fun c : CodePoint => c = '/').length with
  | 0 => []
  | 2 => ofString "//"
  | _ => ofString "/"

/-- Reads a path. -/
def ofText (t : Text) : Path :=
  ⟨rootOf t, (Text.splitOn '/' t).filter fun name => !name.isEmpty && name != ofString "."⟩

/-- The written form of a path; the empty path is a dot. -/
def toText (p : Path) : Text :=
  if p.root.isEmpty && p.names.isEmpty then ofString "."
  else p.root ++ Text.join (ofString "/") p.names

/-- The path `q` seen from `p`. -/
def join (p q : Path) : Path := if q.root.isEmpty then ⟨p.root, p.names ++ q.names⟩ else q

/-- The last name of a path. -/
def fileName (p : Path) : Text := p.names.getLast?.getD []

end Path

end TokenConformance
