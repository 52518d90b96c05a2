import ListingAtlas.Text.EditorText

/-!
Halves of surrogate pairs disguised as characters, so that text which holds them can be worked on as
a string. The disguise is a row of private characters that nothing in the text uses: it belongs to
no class of characters, it is put on half by half, and it can be taken off again.
-/

namespace ListingAtlas.Text

/-- Every half is disguised as the character that is as far from the first one of a row as the half
is from the first half. -/
structure Disguise where
  first : Nat
deriving DecidableEq, Repr

def halfCount : Nat := 0x800

def firstHalf : Nat := 0xD800

/-- The rows that the two private planes are made of. -/
def privateRows : List Nat :=
  (List.range 64).map fun row => 0xF0000 + row * halfCount

namespace Disguise

/-- Whether a character may be a half in disguise. -/
def hides (disguise : Disguise) (character : Char) : Bool :=
  disguise.first ≤ character.toNat && character.toNat < disguise.first + halfCount

def isUnused (disguise : Disguise) (text : EditorText) : Bool :=
  text.codePoints.all fun
    | .scalar character => !disguise.hides character
    | .surrogate _ => true

/-- A row behind the last character; it hides nothing. -/
def needless : Disguise :=
  ⟨0x110000⟩

/-- The first row that none of the texts uses; texts that use every row get the last one, and where
there is no half to disguise, no row is needed. -/
def choose (texts : List EditorText) : Disguise :=
  if texts.all fun text => text.codePoints.all fun point => !point.isSurrogate then needless
  else
    let rows := privateRows.map mk
    (rows.find? fun disguise => texts.all disguise.isUnused).getD ⟨0x10F800⟩

/-- There are as many characters in a row as there are halves. -/
def putOnPoint (disguise : Disguise) : CodePoint → Char
  | .scalar character => character
  | .surrogate unit => Char.ofNat (disguise.first + (unit - firstHalf) % halfCount)

def takeOffChar (disguise : Disguise) (character : Char) : CodePoint :=
  if disguise.hides character then .surrogate (firstHalf + (character.toNat - disguise.first))
  else .scalar character

def putOn (disguise : Disguise) (text : EditorText) : String :=
  String.ofList (text.codePoints.map disguise.putOnPoint)

def takeOff (disguise : Disguise) (text : String) : EditorText :=
  ⟨text.toList.map disguise.takeOffChar⟩

/-- Whether any half is disguised in a text. -/
def isWornIn (disguise : Disguise) (text : String) : Bool :=
  text.toList.any disguise.hides

end Disguise

end ListingAtlas.Text
