import ListingAtlas.Json
import ListingAtlas.Number.Reading
import ListingAtlas.Text.EditorText

/-!
Reading JSON text. Escapes of two surrogate halves in a row are one character, and a half that
stands alone stays one. Besides the numbers of the grammar, `NaN` and the infinities are read. Lists
and records may hold each other up to a depth only.
-/

namespace ListingAtlas.Json

open Number Text

inductive ReadError where
  | malformed
  | numeralTooLong
  | tooDeep
deriving DecidableEq, Repr

abbrev Points := List CodePoint

abbrev Read (Value : Type) := Except ReadError (Value × Points)

def isSpace : CodePoint → Bool
  | .scalar character =>
      character == ' ' || character == '\t' || character == '\n' || character == '\r'
  | .surrogate _ => false

def skipSpace (points : Points) : Points :=
  points.dropWhile isSpace

/-- The rest after a word, if the text starts with it. -/
def afterWord? (word : String) (points : Points) : Option Points :=
  if (EditorText.ofString word).codePoints.isPrefixOf points then
    some (points.drop word.length)
  else none

/-! ### Strings -/

def hexDigit? (character : Char) : Option Nat :=
  if '0' ≤ character && character ≤ '9' then some (character.toNat - '0'.toNat)
  else if 'a' ≤ character && character ≤ 'f' then some (character.toNat - 'a'.toNat + 10)
  else if 'A' ≤ character && character ≤ 'F' then some (character.toNat - 'A'.toNat + 10)
  else none

def readUnit? : Points → Option (Nat × Points)
  | .scalar a :: .scalar b :: .scalar c :: .scalar d :: rest => do
      let a ← hexDigit? a
      let b ← hexDigit? b
      let c ← hexDigit? c
      let d ← hexDigit? d
      some (((a * 16 + b) * 16 + c) * 16 + d, rest)
  | _ => none

def simpleEscape? (character : Char) : Option Char :=
  if character == '"' || character == '\\' || character == '/' then some character
  else if character == 'b' then some '\x08'
  else if character == 'f' then some '\x0c'
  else if character == 'n' then some '\n'
  else if character == 'r' then some '\r'
  else if character == 't' then some '\t'
  else none

/-- The low half escaped at the front, which the high half before it needs to be a character. -/
def readLowHalf? : Points → Option (Nat × Points)
  | .scalar '\\' :: .scalar 'u' :: rest => do
      let (unit, rest) ← readUnit? rest
      if isLowHalf unit then some (unit, rest) else none
  | _ => none

/-- The code point that an escaped unit begins. -/
def readCodePoint (unit : Nat) (rest : Points) : CodePoint × Points :=
  if isHighHalf unit then
    match readLowHalf? rest with
    | some (low, after) => (.ofHalves unit low, after)
    | none => (.surrogate unit, rest)
  else if isLowHalf unit then (.surrogate unit, rest)
  else (.scalar (Char.ofNat unit), rest)

/-- Whether a code point may stand in a string as it is. -/
def isPlain : CodePoint → Bool
  | .scalar character => 0x20 ≤ character.toNat && character != '\\'
  | .surrogate _ => true

/-- The rest of a string after its opening mark; each step of the bound takes a code point off. -/
def readString : Nat → Points → Read Points
  | 0, _ => .error .malformed
  | _ + 1, [] => .error .malformed
  | bound + 1, .scalar '"' :: rest => let _ := bound; .ok ([], rest)
  | bound + 1, .scalar '\\' :: .scalar 'u' :: rest =>
      match readUnit? rest with
      | none => .error .malformed
      | some (unit, after) =>
          let (point, after) := readCodePoint unit after
          (readString bound after).map fun (points, rest) => (point :: points, rest)
  | bound + 1, .scalar '\\' :: .scalar escape :: rest =>
      match simpleEscape? escape with
      | none => .error .malformed
      | some character =>
          (readString bound rest).map fun (points, rest) => (.scalar character :: points, rest)
  | bound + 1, point :: rest =>
      if isPlain point then
        (readString bound rest).map fun (points, rest) => (point :: points, rest)
      else .error .malformed

/-! ### Numbers -/

def isAsciiDigit (character : Char) : Bool :=
  '0' ≤ character && character ≤ '9'

/-- The digits at the front, and the rest. -/
def takeDigits : Points → List Char × Points
  | .scalar character :: rest =>
      if isAsciiDigit character then
        let (digits, after) := takeDigits rest
        (character :: digits, after)
      else ([], .scalar character :: rest)
  | rest => ([], rest)

/-- The digits of a whole number: a zero stands alone. -/
def readWhole? : Points → Option (List Char × Points)
  | .scalar '0' :: rest => some (['0'], rest)
  | points =>
      let (digits, rest) := takeDigits points
      if digits.isEmpty then none else some (digits, rest)

/-- The digits after a point, or none of both. -/
def readFraction : Points → Option (List Char) × Points
  | .scalar '.' :: rest =>
      let (digits, after) := takeDigits rest
      if digits.isEmpty then (none, .scalar '.' :: rest) else (some digits, after)
  | rest => (none, rest)

/-- Whether a minus sign stands at the front, and what is behind either sign. -/
def takeSign : Points → Bool × Points
  | .scalar '-' :: rest => (true, rest)
  | .scalar '+' :: rest => (false, rest)
  | rest => (false, rest)

def isPowerMark (point : CodePoint) : Bool :=
  point == .scalar 'e' || point == .scalar 'E'

/-- The exponent after its mark, or none of both. -/
def readPower : Points → Option Int × Points
  | mark :: rest =>
      if isPowerMark mark then
        let (negative, unsigned) := takeSign rest
        let (digits, after) := takeDigits unsigned
        if digits.isEmpty then (none, mark :: rest)
        else (some (if negative then -(numberOf digits) else numberOf digits), after)
      else (none, mark :: rest)
  | [] => (none, [])

def readNumber (negative : Bool) (points : Points) : Read (Json EditorText) :=
  match readWhole? points with
  | none => .error .malformed
  | some (whole, rest) =>
      let (fraction, rest) := readFraction rest
      let (power, rest) := readPower rest
      match fraction, power with
      | none, none =>
          if digitLimit < whole.length then .error .numeralTooLong
          else
            let magnitude : Int := numberOf whole
            .ok (.int (if negative then -magnitude else magnitude), rest)
      | fraction, power =>
          let places := fraction.getD []
          let exponent := power.getD 0 - places.length
          .ok (.real (ofDecimal negative (numberOf (whole ++ places)) exponent), rest)

/-! ### Values -/

/-- A value that is one word or one number. -/
def readScalar (points : Points) : Read (Json EditorText) :=
  match points with
  | .scalar '-' :: rest =>
      match afterWord? "Infinity" rest with
      | some rest => .ok (.real (.infinite true), rest)
      | none => readNumber true rest
  | _ =>
      match afterWord? "null" points, afterWord? "true" points, afterWord? "false" points,
          afterWord? "NaN" points, afterWord? "Infinity" points with
      | some rest, _, _, _, _ => .ok (.null, rest)
      | _, some rest, _, _, _ => .ok (.bool true, rest)
      | _, _, some rest, _, _ => .ok (.bool false, rest)
      | _, _, _, some rest, _ => .ok (.real .notANumber, rest)
      | _, _, _, _, some rest => .ok (.real (.infinite false), rest)
      | _, _, _, _, _ => readNumber false points

mutual

/-- A value with no space in front, in which lists and records may still hold each other so deep. -/
def readValue : Nat → Nat → Points → Read (Json EditorText)
  | 0, _, _ => .error .malformed
  | bound + 1, _, .scalar '"' :: rest =>
      (readString (bound + 1) rest).map fun (points, rest) => (.text ⟨points⟩, rest)
  | _ + 1, 0, .scalar '[' :: _ => .error .tooDeep
  | _ + 1, 0, .scalar '{' :: _ => .error .tooDeep
  | bound + 1, depth + 1, .scalar '[' :: rest =>
      match skipSpace rest with
      | .scalar ']' :: rest => .ok (.list [], rest)
      | rest => (readItems bound depth rest).map fun (items, rest) => (.list items, rest)
  | bound + 1, depth + 1, .scalar '{' :: rest =>
      match skipSpace rest with
      | .scalar '}' :: rest => .ok (.record [], rest)
      | rest => (readFields bound depth rest).map fun (fields, rest) => (.record fields, rest)
  | _ + 1, _, points => readScalar points

/-- One item or more up to the end of their list. -/
def readItems : Nat → Nat → Points → Read (List (Json EditorText))
  | 0, _, _ => .error .malformed
  | bound + 1, depth, points =>
      match readValue bound depth points with
      | .error cause => .error cause
      | .ok (item, rest) =>
          match skipSpace rest with
          | .scalar ']' :: rest => .ok ([item], rest)
          | .scalar ',' :: rest =>
              (readItems bound depth (skipSpace rest)).map fun (items, rest) =>
                (item :: items, rest)
          | _ => .error .malformed

/-- One field or more up to the end of their record. -/
def readFields : Nat → Nat → Points → Read (List (EditorText × Json EditorText))
  | 0, _, _ => .error .malformed
  | bound + 1, depth, .scalar '"' :: rest =>
      match readString (bound + 1) rest with
      | .error cause => .error cause
      | .ok (name, rest) =>
          match skipSpace rest with
          | .scalar ':' :: rest =>
              match readValue bound depth (skipSpace rest) with
              | .error cause => .error cause
              | .ok (item, rest) =>
                  match skipSpace rest with
                  | .scalar '}' :: rest => .ok ([(⟨name⟩, item)], rest)
                  | .scalar ',' :: rest =>
                      (readFields bound depth (skipSpace rest)).map fun (fields, rest) =>
                        ((⟨name⟩, item) :: fields, rest)
                  | _ => .error .malformed
          | _ => .error .malformed
  | _ + 1, _, _ => .error .malformed

end

/-- A whole text that holds one value and space around it, in which lists and records hold each
other no deeper than allowed. -/
def read (deepest : Nat) (text : EditorText) : Except ReadError (Json EditorText) :=
  let points := skipSpace text.codePoints
  match readValue (points.length + 1) deepest points with
  | .error cause => .error cause
  | .ok (value, rest) => if (skipSpace rest).isEmpty then .ok value else .error .malformed

end ListingAtlas.Json
