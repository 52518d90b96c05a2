import ListingAtlas.Number.Binary64
import ListingAtlas.Text.Blank
import ListingAtlas.Text.Digit

/-!
Numbers read from settings and options. Digits of every script count, single underscores may stand
between digits, and blanks around the number are ignored.
-/

namespace ListingAtlas.Number

open Text

/-- Whether a blank may pad a number: the information separators may not. -/
def padsNumber (character : Char) : Bool :=
  isBlank character && !(0x1C ≤ character.toNat && character.toNat ≤ 0x1F)

def trimPadding (characters : List Char) : List Char :=
  ((characters.dropWhile padsNumber).reverse.dropWhile padsNumber).reverse

/-- The sign in front of a number and what follows it; no sign is plus. -/
def splitSign : List Char → Bool × List Char
  | '-' :: rest => (true, rest)
  | '+' :: rest => (false, rest)
  | rest => (false, rest)

/-- The digits in front, joined across single underscores, and the rest. -/
def splitDigits : List Char → List Char × List Char
  | [] => ([], [])
  | '_' :: rest => ([], '_' :: rest)
  | first :: '_' :: second :: rest =>
      if isDigit first && isDigit second then
        let (digits, after) := splitDigits (second :: rest)
        (first :: digits, after)
      else if isDigit first then ([first], '_' :: second :: rest)
      else ([], first :: '_' :: second :: rest)
  | first :: rest =>
      if isDigit first then
        let (digits, after) := splitDigits rest
        (first :: digits, after)
      else ([], first :: rest)

/-! ### Whole numbers -/

/-- Longer numerals are refused, whatever follows them. -/
def digitLimit : Nat := 4300

inductive NumeralError where
  | malformed
  | tooLong (digits : Nat)
deriving DecidableEq, Repr

def readInt (characters : List Char) : Except NumeralError Int :=
  let (negative, unsigned) := splitSign (trimPadding characters)
  let (digits, rest) := splitDigits unsigned
  if rest.head? == some '_' then .error .malformed
  else if digitLimit < digits.length then .error (.tooLong digits.length)
  else if digits.isEmpty || !rest.isEmpty then .error .malformed
  else
    let magnitude := numberOf digits
    .ok (if negative then -magnitude else magnitude)

/-! ### Decimals -/

def lowercaseAscii (characters : List Char) : List Char :=
  characters.map Char.toLower

/-- An exponent after its mark; the rest must be empty. -/
def readExponent? : List Char → Option Int
  | [] => some 0
  | mark :: rest =>
      if mark == 'e' || mark == 'E' then
        let (negative, unsigned) := splitSign rest
        let (digits, after) := splitDigits unsigned
        if digits.isEmpty || !after.isEmpty then none
        else some (if negative then -(numberOf digits) else numberOf digits)
      else none

def readBinary64? (characters : List Char) : Option Binary64 :=
  let (negative, unsigned) := splitSign (trimPadding characters)
  let name := String.ofList (lowercaseAscii unsigned)
  if name == "inf" || name == "infinity" then some (.infinite negative)
  else if name == "nan" then some .notANumber
  else
    let (whole, rest) := splitDigits unsigned
    let (fraction, rest) := match rest with
      | '.' :: after => splitDigits after
      | other => ([], other)
    if whole.isEmpty && fraction.isEmpty then none
    else
      (readExponent? rest).map fun exponent =>
        ofDecimal negative (numberOf (whole ++ fraction)) (exponent - fraction.length)

end ListingAtlas.Number
