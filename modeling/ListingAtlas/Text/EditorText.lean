import ListingAtlas.Text.Quoted

/-!
Text as an editor hands it over. Editors count in 16-bit units, so one half of a surrogate pair may
stand alone; such text is no string and has no bytes.
-/

namespace ListingAtlas.Text

inductive CodePoint where
  | scalar (character : Char)
  | surrogate (unit : Nat)
deriving DecidableEq, Repr

structure EditorText where
  codePoints : List CodePoint
deriving DecidableEq, Repr

/-! ### Code points -/

def isHighHalf (unit : Nat) : Bool :=
  0xD800 ≤ unit && unit ≤ 0xDBFF

def isLowHalf (unit : Nat) : Bool :=
  0xDC00 ≤ unit && unit ≤ 0xDFFF

namespace CodePoint

/-- The code point of a number, if it is not beyond the last one. -/
def ofNat? (number : Nat) : Option CodePoint :=
  if isHighHalf number || isLowHalf number then some (.surrogate number)
  else if number < 0x110000 then some (.scalar (Char.ofNat number))
  else none

/-- The character that a high and a low half make. -/
def ofHalves (high low : Nat) : CodePoint :=
  .scalar (Char.ofNat (0x10000 + (high - 0xD800) * 0x400 + (low - 0xDC00)))

def char? : CodePoint → Option Char
  | .scalar character => some character
  | .surrogate _ => none

def isSurrogate : CodePoint → Bool
  | .surrogate _ => true
  | .scalar _ => false

/-- A half of a pair is never shown as it is. -/
def quoted (quote : Char) : CodePoint → List Char
  | .scalar character => quotedChar quote character
  | .surrogate unit => '\\' :: 'u' :: hexadecimal 4 unit

end CodePoint

/-! ### Text -/

/-- The first halves in a row: the position of the first of them, their number, and its unit. -/
structure LoneHalves where
  position : Nat
  count : Nat
  unit : Nat
deriving DecidableEq, Repr

namespace EditorText

def ofString (text : String) : EditorText :=
  ⟨text.toList.map .scalar⟩

/-- The text as a string, if no half of a surrogate pair stands alone in it. -/
def toString? (text : EditorText) : Option String :=
  (text.codePoints.mapM CodePoint.char?).map String.ofList

def loneHalves? (text : EditorText) : Option LoneHalves :=
  let before := text.codePoints.takeWhile fun point => !point.isSurrogate
  let halves := (text.codePoints.drop before.length).takeWhile CodePoint.isSurrogate
  match halves with
  | .surrogate unit :: _ => some ⟨before.length, halves.length, unit⟩
  | _ => none

/-- The text in quotes, as a string would be quoted. -/
def quoted (text : EditorText) : String :=
  let quote := quoteFor (text.codePoints.filterMap CodePoint.char?)
  String.ofList (quote :: text.codePoints.flatMap (CodePoint.quoted quote) ++ [quote])

end EditorText

end ListingAtlas.Text
