/-!
# Binary floating point — numbers of 53 significant bits

`Binary64` holds the values of the 64-bit format as sign, significand and exponent.  `ofRatio`
rounds an exact quotient to the nearest of them and a half to the even neighbour; every other
function goes through it.
-/

namespace TokenConformance

/-- A floating point value; a finite one is `± significand · 2 ^ exponent`. -/
inductive Binary64
  | nan
  | infinite (negative : Bool)
  | finite (negative : Bool) (significand : Nat) (exponent : Int)
  deriving DecidableEq, Repr

/-- The quotient `num / den` rounded to a natural number, a half to the even neighbour. -/
def roundQuotient (num den : Nat) : Nat :=
  let floor := num / den
  let twice := 2 * (num % den)
  if den < twice || (twice = den && floor % 2 = 1) then floor + 1 else floor

namespace Binary64

/-- The significand of `num / den` for the given exponent, rounded. -/
def significandAt (num den : Nat) (exponent : Int) : Nat :=
  if 0 ≤ exponent then roundQuotient num (den * Nat.pow 2 exponent.toNat)
  else roundQuotient (num * Nat.pow 2 (-exponent).toNat) den

/-- The exponent that leaves 53 bits before the point of `num / den`, not below the least one. -/
def exponentOf (num den : Nat) : Int :=
  let guess : Int := Nat.log2 num - Nat.log2 den - 52
  let small :=
    if 0 ≤ guess then num < den * Nat.pow 2 guess.toNat * Nat.pow 2 52
    else num * Nat.pow 2 (-guess).toNat < den * Nat.pow 2 52
  max (if small then guess - 1 else guess) (-1074)

/-- The value nearest to `± num / den`, for a positive `den`. -/
def ofRatio (negative : Bool) (num den : Nat) : Binary64 :=
  if num = 0 then .finite negative 0 (-1074)
  else
    let exponent := exponentOf num den
    let significand := significandAt num den exponent
    let (significand, exponent) :=
      if significand = Nat.pow 2 53 then (Nat.pow 2 52, exponent + 1) else (significand, exponent)
    if 971 < exponent then .infinite negative else .finite negative significand exponent

/-- The value nearest to `num / den`, for a `den` other than zero. -/
def ofQuotient (num den : Int) : Binary64 :=
  ofRatio (decide (num < 0) != decide (den < 0)) num.natAbs den.natAbs

/-- The value nearest to `± significand · 10 ^ exponent`. -/
def ofDecimal (negative : Bool) (significand : Nat) (exponent : Int) : Binary64 :=
  let magnitude : Int := (toString significand).length + exponent
  if significand = 0 || magnitude < -400 then .finite negative 0 (-1074)
  else if 400 < magnitude then .infinite negative
  else if 0 ≤ exponent then ofRatio negative (significand * Nat.pow 10 exponent.toNat) 1
  else ofRatio negative significand (Nat.pow 10 (-exponent).toNat)

/-- Whether the value is a zero of either sign. -/
def isZero : Binary64 → Bool
  | .finite _ 0 _ => true
  | _ => false

/-- A finite magnitude as a quotient of natural numbers. -/
def magnitudeRatio (significand : Nat) (exponent : Int) : Nat × Nat :=
  if 0 ≤ exponent then (significand * Nat.pow 2 exponent.toNat, 1)
  else (significand, Nat.pow 2 (-exponent).toNat)

/-- The integer nearest to a finite value, a half to the even neighbour. -/
def round? : Binary64 → Option Int
  | .finite negative significand exponent =>
    let (num, den) := magnitudeRatio significand exponent
    let magnitude : Int := roundQuotient num den
    some (if negative then -magnitude else magnitude)
  | _ => none

end Binary64

end TokenConformance
