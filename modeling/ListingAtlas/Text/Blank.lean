import ListingAtlas.Text.Ranges

/-!
Blank characters and trimming. A blank is a character that separates words: the Unicode white space
and the four information separators U+001C to U+001F.
-/

namespace ListingAtlas.Text

def blankRanges : Ranges :=
  [(0x9, 0xD), (0x1C, 0x20), (0x85, 0x85), (0xA0, 0xA0), (0x1680, 0x1680), (0x2000, 0x200A),
   (0x2028, 0x2029), (0x202F, 0x202F), (0x205F, 0x205F), (0x3000, 0x3000)]

def isBlank (character : Char) : Bool :=
  blankRanges.contains character

/-! ### Trimming -/

def dropBlanks (characters : List Char) : List Char :=
  characters.dropWhile isBlank

def dropBlanksEnd (characters : List Char) : List Char :=
  (dropBlanks characters.reverse).reverse

def trimChars (characters : List Char) : List Char :=
  dropBlanksEnd (dropBlanks characters)

/-- The text without the blanks at either end. -/
def trim (text : String) : String :=
  String.ofList (trimChars text.toList)

/-- The text without the blanks at its end. -/
def trimEnd (text : String) : String :=
  String.ofList (dropBlanksEnd text.toList)

end ListingAtlas.Text
