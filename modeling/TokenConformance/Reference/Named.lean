import TokenConformance.Reference.Names.AToH
import TokenConformance.Reference.Names.Capital
import TokenConformance.Reference.Names.IToO
import TokenConformance.Reference.Names.PToZ
import TokenConformance.Reference.Trie

/-!
# Named character references — which names there are and which one stands in a text

The table has 2231 names.  Some old names are in it twice, with and without their semicolon.  What
counts in a text is the longest name that the text starts with.
-/

namespace TokenConformance.Reference

/-- A name as it is written behind the ampersand, and the text that it stands for. -/
structure Named where
  name : Text
  expansion : Text
  deriving DecidableEq

/-- Whether the name has its semicolon. -/
def Named.isTerminated (r : Named) : Bool := r.name.getLast? = some (.ofChar ';')

/-- All named references. -/
def table : List Named :=
  (capitalNames ++ aToHNames ++ iToONames ++ pToZNames).map fun (letters, expansion) =>
    ⟨letters.map CodePoint.ofChar, expansion⟩

/-- The named references by their names. -/
def byName : Trie CodePoint Named := Trie.ofList (table.map fun r => (r.name, r))

/-- The reference with the longest name that the text starts with, and the text behind it. -/
def longestNamed? (t : Text) : Option (Named × Text) := byName.longest? t

end TokenConformance.Reference
