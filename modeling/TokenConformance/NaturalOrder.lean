import TokenConformance.Text.Case
import TokenConformance.Text.Digit

/-!
# Natural order — file names sorted with their numbers read as numbers

A name is cut at its runs of ASCII digits, and the pieces are compared one after another: numbers
by their value, other text in small letters and by code point.  A piece of other text that consists
of digits of other scripts counts as a number too, so that names can meet whose pieces in the same
place are a number and a text; those are incomparable.
-/

namespace TokenConformance

/-- Why names cannot be put in order. -/
inductive NaturalError
  /-- A piece that looks like a number has no value. -/
  | numeral (e : NumeralError)
  /-- A number and a text meet. -/
  | incomparable
  deriving DecidableEq, Repr

namespace Natural

/-- A piece of a sorting key. -/
inductive Piece
  | text (t : Text)
  | number (n : Nat)
  deriving DecidableEq

/-- The pieces of a text: other text and runs of ASCII digits in turn, from other text to other
text, either of which may be empty. -/
def chunks : Text → List Text
  | [] => [[]]
  | c :: rest =>
    match chunks rest with
    | [] :: digits :: others =>
      if c.isDigit then [] :: (c :: digits) :: others else [c] :: digits :: others
    | other :: others => if c.isDigit then [] :: [c] :: other :: others else (c :: other) :: others
    | [] => [[c]]

/-- The piece of a key that a piece of a text becomes. -/
def pieceOf (chunk : Text) : Except NumeralError Piece :=
  if !chunk.isEmpty && chunk.all CodePoint.isDigitLike then (Numeral.decimal chunk).map .number
  else .ok (.text chunk.lower)

/-- The sorting key of a text. -/
def key (t : Text) : Except NumeralError (List Piece) := (chunks t).mapM pieceOf

/-- Whether the first difference of two keys, if there is one, is between pieces of one kind. -/
def comparable : List Piece → List Piece → Bool
  | .text s :: ps, .text t :: qs => s != t || comparable ps qs
  | .number m :: ps, .number n :: qs => m != n || comparable ps qs
  | [], _ => true
  | _, [] => true
  | _, _ => false

/-- The order of pieces: numbers by value, texts by code point, and any number before any text. -/
def Piece.compare : Piece → Piece → Ordering
  | text s, text t => Text.compare s t
  | number m, number n => Ord.compare m n
  | number _, text _ => .lt
  | text _, number _ => .gt

/-- The lexicographic order of keys. -/
def compareKeys : List Piece → List Piece → Ordering
  | [], [] => .eq
  | [], _ :: _ => .lt
  | _ :: _, [] => .gt
  | p :: ps, q :: qs => (p.compare q).then (compareKeys ps qs)

/-- Sorts by the natural order of `name`; what has equal keys stays in its order.  Every key has to
exist, and any two have to be comparable. -/
def sortBy {α : Type} (name : α → Text) (items : List α) : Except NaturalError (List α) :=
  match items.mapM fun item => (key (name item)).map (·, item) with
  | .error e => .error (.numeral e)
  | .ok keyed =>
    if keyed.all fun p => keyed.all fun q => comparable p.1 q.1 then
      .ok ((keyed.mergeSort fun p q => (compareKeys p.1 q.1).isLE).map Prod.snd)
    else .error .incomparable

end Natural

end TokenConformance
