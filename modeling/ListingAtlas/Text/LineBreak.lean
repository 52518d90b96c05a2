/-!
Breaking text into lines. A line feed, alone or after a carriage return, always ends a line; whether
a carriage return alone does so too depends on what the text is.
-/

namespace ListingAtlas.Text

/-- Put a character in front of the first line. -/
def extendFirst (character : Char) : List (List Char) → List (List Char)
  | [] => [[character]]
  | line :: lines => (character :: line) :: lines

/-- The lines of a text, of which there is always one more than there are breaks. -/
def breakLines (returnBreaks : Bool) : List Char → List (List Char)
  | [] => [[]]
  | '\r' :: '\n' :: rest => [] :: breakLines returnBreaks rest
  | '\n' :: rest => [] :: breakLines returnBreaks rest
  | '\r' :: rest =>
      if returnBreaks then [] :: breakLines returnBreaks rest
      else extendFirst '\r' (breakLines returnBreaks rest)
  | character :: rest => extendFirst character (breakLines returnBreaks rest)

/-- Lines that end at a line feed only, alone or after a carriage return. -/
def linesAtFeeds (text : String) : List String :=
  (breakLines false text.toList).map String.ofList

/-- Lines that end at a line feed, a carriage return, or both in this order. -/
def linesAtBreaks (text : String) : List String :=
  (breakLines true text.toList).map String.ofList

/-- Every break written as one line feed. -/
def unifyBreaks : List Char → List Char
  | [] => []
  | '\r' :: '\n' :: rest => '\n' :: unifyBreaks rest
  | '\r' :: rest => '\n' :: unifyBreaks rest
  | character :: rest => character :: unifyBreaks rest

end ListingAtlas.Text
