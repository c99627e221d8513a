import TokenConformance.Text.CodePoint
import TokenConformance.Text.CaseTable
import TokenConformance.Text.CasedTable

/-!
# Letter case — two ways to lower a text

`asciiLower` touches `A` to `Z` alone and is what makes tag names comparable.  `lower` maps every
capital letter of every script and serves as a sorting key.  Each code point is mapped on its own,
with one exception: a capital sigma becomes the final form of the letter at the end of a word.
-/

namespace TokenConformance

namespace CodePoint

/-- The small letter for `A` to `Z`, and any other code point itself. -/
def asciiLower (c : CodePoint) : CodePoint := if c.isUpper then c + 32 else c

/-- Capital and small letters of all scripts. -/
def isCased (c : CodePoint) : Bool :=
  Text.casedRanges.any fun (first, last) => first ≤ c.val && c.val ≤ last

/-- Marks and signs that do not end the word they stand in. -/
def isTransparent (c : CodePoint) : Bool :=
  Text.transparentRanges.any fun (first, last) => first ≤ c.val && c.val ≤ last

end CodePoint

/-- Whether the run holds the code point with number `n`. -/
def Text.CaseRun.holds (run : Text.CaseRun) (n : Nat) : Bool :=
  run.first ≤ n && n ≤ run.last && (n - run.first) % run.stride = 0

/-- The small letter or letters of a code point, and any other code point itself. -/
def CodePoint.lower (c : CodePoint) : Text :=
  if c = 0x130 then [0x69, 0x307]
  else match Text.capitalRuns.find? (·.holds c.val) with
    | some run => [CodePoint.ofNat (c.val + run.shift).toNat]
    | none => [c]

namespace Text

/-- Lowers `A` to `Z` and keeps all other letters as they are. -/
def asciiLower (t : Text) : Text := t.map CodePoint.asciiLower

/-- Whether the first code point that is not transparent is a cased one. -/
def startsCased (t : Text) : Bool :=
  (t.find? fun c => !c.isTransparent).any CodePoint.isCased

/-- Whether a word ends between two pieces of text, the first of which is given backwards. -/
def endsWord (before after : Text) : Bool := startsCased before && !startsCased after

/-- The small sigma between two pieces of text, the first of which is given backwards. -/
def smallSigma (before after : Text) : CodePoint := if endsWord before after then 0x3C2 else 0x3C3

/-- Lowers a text that stands behind `before`, which is given backwards. -/
def lowerAfter (before : Text) : Text → Text
  | [] => []
  | c :: rest =>
    (if c = 0x3A3 then [smallSigma before rest] else c.lower) ++ lowerAfter (c :: before) rest

/-- Lowers every letter that has a small form. -/
def lower (t : Text) : Text := lowerAfter [] t

end Text

end TokenConformance
