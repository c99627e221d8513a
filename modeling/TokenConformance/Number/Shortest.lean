import TokenConformance.Number.Binary64
import TokenConformance.Text.CodePoint

/-!
# Shortest decimal text — the fewest digits that read back

A finite number is written with the fewest significant digits that round to it again, and of
several such digit strings with the nearest.  Decimal exponents from -4 to 15 are written
positionally with at least one digit after the point, all others in scientific notation with an
exponent of at least two digits.
-/

namespace TokenConformance.Binary64

open Text (ofString)

/-- The decimal exponent `k` with `10 ^ (k - 1) ≤ num / den < 10 ^ k`, for a positive quotient. -/
def decimalMagnitude (num den : Nat) : Int :=
  if den ≤ num then (toString (num / den)).length
  else
    -- below one: how many of its decimal places are zeros before the first digit
    let zeros := ((List.range 330).find? fun i => den ≤ num * Nat.pow 10 (i + 1)).getD 330
    Int.neg zeros

/-- The two neighbours of `num / den` on the grid `10 ^ exponent`, the nearer first and on a tie
the even one. -/
def gridNeighbours (num den : Nat) (exponent : Int) : List Nat :=
  let (num, den) :=
    if 0 ≤ exponent then (num, den * Nat.pow 10 exponent.toNat)
    else (num * Nat.pow 10 (-exponent).toNat, den)
  let floor := num / den
  let twice := 2 * (num % den)
  if den < twice || (twice = den && floor % 2 = 1) then [floor + 1, floor] else [floor, floor + 1]

/-- The shortest digits and the exponent of their last one, for a positive finite magnitude. -/
def shortestDigits (significand : Nat) (exponent : Int) : Nat × Int :=
  let (num, den) := magnitudeRatio significand exponent
  let magnitude := decimalMagnitude num den
  let candidates := (List.range 17).flatMap fun i =>
    let last := magnitude - (i + 1 : Nat)
    (gridNeighbours num den last).map fun digits => (digits, last)
  let readsBack := fun (digits, last) =>
    decide (ofDecimal false digits last = .finite false significand exponent)
  (candidates.find? readsBack).getD (0, 0)

/-- Digits with the decimal point in front of the last `-last` of them, or zeros behind them. -/
def positional (digits : Text) (last : Int) : Text :=
  if 0 ≤ last then digits ++ List.replicate last.toNat 0x30 ++ ofString ".0"
  else
    let places := (-last).toNat
    if places < digits.length then
      digits.take (digits.length - places) ++ ofString "." ++ digits.drop (digits.length - places)
    else ofString "0." ++ List.replicate (places - digits.length) 0x30 ++ digits

/-- Digits with the point behind the first one and an exponent. -/
def scientific (digits : Text) (exponent : Int) : Text :=
  let size := Text.ofNat exponent.natAbs
  digits.take 1 ++ (if digits.length ≤ 1 then [] else ofString "." ++ digits.drop 1) ++
    ofString (if exponent < 0 then "e-" else "e+") ++
    (if size.length < 2 then ofString "0" ++ size else size)

/-- Digits without the zeros at their end, and the exponent of the last one left. -/
def dropZeros (digits : Text) (last : Int) : Text × Int :=
  let kept := (digits.reverse.dropWhile fun c : CodePoint => c = '0').reverse
  (kept, last + (digits.length - kept.length : Nat))

/-- The written form of a floating point number. -/
def toText : Binary64 → Text
  | .nan => "nan"
  | .infinite negative => if negative then "-inf" else "inf"
  | .finite negative significand exponent =>
    let sign : Text := if negative then "-" else []
    if significand = 0 then sign ++ ofString "0.0"
    else
      let (number, last) := shortestDigits significand exponent
      let (digits, last) := dropZeros (Text.ofNat number) last
      let leading := last + digits.length - 1
      sign ++ if -4 ≤ leading && leading < 16 then positional digits last
        else scientific digits leading

end TokenConformance.Binary64
