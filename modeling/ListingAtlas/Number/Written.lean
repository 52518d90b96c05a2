import ListingAtlas.Number.Reading

/-!
Numbers as text: the fewest digits that read back as the number, and a fixed single decimal place.
Whole numbers are written in full, up to as many digits as are read.
-/

namespace ListingAtlas.Number

/-- Whether a whole number has more digits than are written. -/
def isTooLong (number : Int) : Bool :=
  tenTo digitLimit ≤ number.natAbs

/-! ### The shortest digits -/

/-- The bounds between which every decimal reads back as the number, in quarters of its unit. -/
structure Neighbourhood where
  value : Nat
  low : Nat
  high : Nat
  inclusive : Bool

def neighbourhood (significand : Nat) (exponent : Int) : Neighbourhood :=
  let narrow := significand == leastFull && leastExponent < exponent
  { value := 4 * significand
    low := 4 * significand - (if narrow then 1 else 2)
    high := 4 * significand + 2
    inclusive := significand % 2 == 0 }

/-- Ten to an integer power as a ratio. -/
def powerOfTen (exponent : Int) : Nat × Nat :=
  if 0 ≤ exponent then (tenTo exponent.toNat, 1) else (1, tenTo (-exponent).toNat)

/-- How many digits stand before the point of a positive ratio; below one tenth it is negative. -/
def integerDigits (numerator denominator : Nat) : Int :=
  let guess : Int := ((Nat.log2 numerator : Int) - Nat.log2 denominator) * 30103 / 100000
  let atLeast (power : Int) : Bool :=
    let (up, down) := powerOfTen power
    up * denominator ≤ numerator * down
  if atLeast (guess + 1) then guess + 2 else if atLeast guess then guess + 1 else guess

/-- The integer whose product with a power of ten lies nearest the number, if one of them lies
within the bounds; of two at one distance the even one. -/
def onGrid? (bounds : Neighbourhood) (unit : Nat × Nat) (power : Int) : Option Nat :=
  let (up, down) := powerOfTen power
  let scale (quarters : Nat) : Nat := quarters * unit.1 * down
  let point (digits : Nat) : Nat := digits * up * unit.2
  let inside (digits : Nat) : Bool :=
    if bounds.inclusive then scale bounds.low ≤ point digits && point digits ≤ scale bounds.high
    else scale bounds.low < point digits && point digits < scale bounds.high
  let below := scale bounds.value / (up * unit.2)
  let above := below + 1
  let shortfall := scale bounds.value - point below
  let excess := point above - scale bounds.value
  let belowNearer := shortfall < excess || (shortfall == excess && below % 2 == 0)
  match inside below, inside above with
  | true, true => some (if belowNearer then below else above)
  | true, false => some below
  | false, true => some above
  | false, false => none

/-- The fewest digits that read back as a positive number, without trailing zeros, and the place of
the point: how many of them stand before it. -/
def shortestDigits (significand : Nat) (exponent : Int) : List Char × Int :=
  let bounds := neighbourhood significand exponent
  let unit := ratioOf 1 (exponent - 2)
  let (numerator, denominator) := ratioOf significand exponent
  let place := integerDigits numerator denominator
  let found := (List.range 17).findSome? fun (index : Nat) =>
    let power : Int := place - ((index + 1 : Nat) : Int)
    (onGrid? bounds unit power).map fun digits => (digits, power)
  match found with
  | none => (['0'], 1)
  | some (digits, power) =>
      let written := Nat.toDigits 10 digits
      let kept := (written.reverse.dropWhile (· == '0')).reverse
      (kept, written.length + power)

/-! ### Layout -/

def signText (negative : Bool) : List Char :=
  if negative then ['-'] else []

/-- An exponent with its sign and at least two digits. -/
def exponentText (exponent : Int) : List Char :=
  let digits := Nat.toDigits 10 exponent.natAbs
  'e' :: (if exponent < 0 then '-' else '+') :: (List.replicate (2 - digits.length) '0' ++ digits)

/-- Positional from 0.0001 up to below 10 ^ 16, always with a point; with an exponent elsewhere. -/
def layout (digits : List Char) (place : Int) : List Char :=
  if -4 < place && place ≤ 16 then
    if place ≤ 0 then '0' :: '.' :: (List.replicate (-place).toNat '0' ++ digits)
    else
      let whole := place.toNat
      let front := digits.take whole ++ List.replicate (whole - digits.length) '0'
      let back := digits.drop whole
      front ++ '.' :: (if back.isEmpty then ['0'] else back)
  else
    match digits with
    | [] => []
    | [digit] => digit :: exponentText (place - 1)
    | digit :: others => digit :: '.' :: (others ++ exponentText (place - 1))

def shortest : Binary64 → String
  | .notANumber => "nan"
  | .infinite negative => String.ofList (signText negative ++ "inf".toList)
  | .finite negative significand exponent =>
      let body :=
        if significand == 0 then "0.0".toList
        else
          let (digits, place) := shortestDigits significand exponent
          layout digits place
      String.ofList (signText negative ++ body)

/-- One decimal place; the exact value decides, and a half goes to the even neighbour. -/
def oneDecimal : Binary64 → String
  | .notANumber => "nan"
  | .infinite negative => String.ofList (signText negative ++ "inf".toList)
  | .finite negative significand exponent =>
      let (numerator, denominator) := ratioOf significand exponent
      let tenths := roundedQuotient (10 * numerator) denominator
      String.ofList (signText negative ++ Nat.toDigits 10 (tenths / 10) ++
        '.' :: Nat.toDigits 10 (tenths % 10))

end ListingAtlas.Number
