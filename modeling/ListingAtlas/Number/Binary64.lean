/-!
Binary floating-point numbers of 64 bits as exact values, and the nearest one to a decimal.
-/

namespace ListingAtlas.Number

/-- A finite number is its significand times a power of two; significands have at most 53 bits. -/
inductive Binary64 where
  | finite (negative : Bool) (significand : Nat) (exponent : Int)
  | infinite (negative : Bool)
  | notANumber
deriving DecidableEq, Repr

def leastExponent : Int := -1074

def greatestExponent : Int := 971

def twoTo (exponent : Nat) : Nat :=
  Nat.pow 2 exponent

def tenTo (exponent : Nat) : Nat :=
  Nat.pow 10 exponent

/-- The significands of 53 bits reach from here up to twice as much. -/
def leastFull : Nat := twoTo 52

/-- The quotient rounded to the nearest integer, a half to the even neighbour. -/
def roundedQuotient (numerator denominator : Nat) : Nat :=
  let quotient := numerator / denominator
  let twice := 2 * (numerator % denominator)
  if twice < denominator then quotient
  else if denominator < twice then quotient + 1
  else quotient + quotient % 2

/-- A ratio divided by a power of two, as a ratio. -/
def unscaled (numerator denominator : Nat) (exponent : Int) : Nat × Nat :=
  if 0 ≤ exponent then (numerator, denominator * twoTo exponent.toNat)
  else (numerator * twoTo (-exponent).toNat, denominator)

/-- The exponent at which the significand of a positive ratio has 53 bits, or the least one. -/
def exponentOf (numerator denominator : Nat) : Int :=
  let guess : Int := (Nat.log2 numerator : Int) - Nat.log2 denominator - 52
  let (scaled, unit) := unscaled numerator denominator guess
  max leastExponent (if scaled < unit * leastFull then guess - 1 else guess)

/-- The nearest number to a positive ratio, or infinity beyond the greatest. -/
def ofRatio (negative : Bool) (numerator denominator : Nat) : Binary64 :=
  let exponent := exponentOf numerator denominator
  let (scaled, unit) := unscaled numerator denominator exponent
  let significand := roundedQuotient scaled unit
  let carried := significand == 2 * leastFull
  let exponent := if carried then exponent + 1 else exponent
  if greatestExponent < exponent then .infinite negative
  else .finite negative (if carried then leastFull else significand) exponent

/-- The nearest number to `significand * 10 ^ exponent`. -/
def ofDecimal (negative : Bool) (significand : Nat) (exponent : Int) : Binary64 :=
  let magnitude : Int := (Nat.toDigits 10 significand).length + exponent
  if significand == 0 || magnitude < -330 then .finite negative 0 leastExponent
  else if 310 < magnitude then .infinite negative
  else if 0 ≤ exponent then ofRatio negative (significand * tenTo exponent.toNat) 1
  else ofRatio negative significand (tenTo (-exponent).toNat)

def ofInt (value : Int) : Binary64 :=
  ofDecimal (value < 0) value.natAbs 0

/-- The magnitude of a finite number as a ratio. -/
def ratioOf (significand : Nat) (exponent : Int) : Nat × Nat :=
  if 0 ≤ exponent then (significand * twoTo exponent.toNat, 1)
  else (significand, twoTo (-exponent).toNat)

/-- Whether a number is at most zero. -/
def Binary64.isNonpositive : Binary64 → Bool
  | .finite negative significand _ => negative || significand == 0
  | .infinite negative => negative
  | .notANumber => false

/-- Whether a whole number is beyond the number. All but zero are beyond what is no number. -/
def Binary64.exceededBy (number : Binary64) (whole : Nat) : Bool :=
  match number with
  | .finite negative significand exponent =>
      let (numerator, denominator) := ratioOf significand exponent
      if negative then 0 < numerator || 0 < whole else numerator < whole * denominator
  | .infinite negative => negative
  | .notANumber => 0 < whole

/-- The least whole number that is not below the number, if there is one. -/
def Binary64.ceiling? : Binary64 → Option Nat
  | .finite negative significand exponent =>
      let (numerator, denominator) := ratioOf significand exponent
      some (if negative then 0 else (numerator + denominator - 1) / denominator)
  | .infinite negative => if negative then some 0 else none
  | .notANumber => some 0

end ListingAtlas.Number
