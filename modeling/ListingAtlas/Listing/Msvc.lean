import ListingAtlas.Failure
import ListingAtlas.Listing.Dialect
import ListingAtlas.Text.Digit
import ListingAtlas.Text.Word

/-!
The dialect of Microsoft listings, in which source lines are quoted in comments and instructions are
indented by a tab.
-/

namespace ListingAtlas.Listing.Msvc

open Text

def filePrefix : List Char := "; File ".toList

def codeSegment : List Char := "_TEXT".toList

def startsWith (marker : List Char) (line : String) : Bool :=
  marker.isPrefixOf line.toList

/-- Whether a line ends with a marker, blanks at its end aside. -/
def endsWith (marker : String) (line : String) : Bool :=
  marker.toList.isSuffixOf (dropBlanksEnd line.toList)

def announcedFile? (line : String) : Option String :=
  if startsWith filePrefix line then
    some (String.ofList (trimChars (line.toList.drop filePrefix.length)))
  else none

def namesFile (line path : String) : Bool :=
  trimChars line.toList == filePrefix ++ path.toList

def opensSegment (line : String) : Bool :=
  startsWith codeSegment line && endsWith "SEGMENT" line

def closesSegment (line : String) : Bool :=
  endsWith "ENDP" line || (startsWith codeSegment line && endsWith "ENDS" line)

/-- The token of a line directive, when one or more blanks and a colon follow it. -/
def tokenBeforeColon? : List Char → Option (List Char)
  | [] => none
  | first :: rest =>
      if isDigit first then
        let token := first :: rest.takeWhile isWord
        let after := rest.dropWhile isWord
        match after, dropBlanks after with
        | blank :: _, ':' :: _ => if isBlank blank then some token else none
        | _, _ => none
      else none

/-- A line directive is a semicolon, blanks, a token that starts with a digit, blanks, a colon. -/
def lineToken? (line : String) : Option String :=
  match line.toList with
  | ';' :: blank :: rest =>
      if isBlank blank then (tokenBeforeColon? (dropBlanks rest)).map String.ofList else none
  | _ => none

def isComment (line : String) : Bool :=
  startsWith [';'] line

def isInstruction (line : String) : Bool :=
  startsWith ['\t'] line

def dialect : Dialect :=
  { name := "MSVC /FAs"
    announcedFile? := announcedFile?
    namesFile := namesFile
    opensSegment := opensSegment
    closesSegment := closesSegment
    lineToken? := lineToken?
    isComment := isComment
    isInstruction := isInstruction }

end ListingAtlas.Listing.Msvc

namespace ListingAtlas.Listing

/-- Every dialect that can be read, by key. -/
def dialects : List (String × Dialect) :=
  [("msvc", Msvc.dialect)]

def dialectKeys : List String :=
  dialects.map Prod.fst

/-- The dialect of listings that are not said to have another. -/
def defaultDialect : String := "msvc"

def findDialect (key : String) : Except Failure Dialect :=
  match dialects.lookup key with
  | some dialect => .ok dialect
  | none => .error (.unknownDialect key (", ".intercalate dialectKeys))

end ListingAtlas.Listing
