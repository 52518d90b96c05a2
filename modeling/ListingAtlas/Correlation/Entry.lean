import ListingAtlas.Text.LineBreak

/-!
A correlation: for each source line that produced code, its text, its instructions as one text, and
the color to show it in.
-/

namespace ListingAtlas

structure Entry where
  sourceLine : Int
  sourceText : String
  assemblyText : String
  displayColor : String
deriving DecidableEq, Repr

/-- The instruction lines of an entry; none if the text is empty. -/
def Entry.assemblyLines (entry : Entry) : List String :=
  if entry.assemblyText.isEmpty then [] else Text.linesAtFeeds entry.assemblyText

structure Correlation where
  sourceName : String
  entries : List Entry
deriving DecidableEq, Repr

namespace Correlation

def isEmpty (correlation : Correlation) : Bool :=
  correlation.entries.isEmpty

def entryFor? (correlation : Correlation) (sourceLine : Int) : Option Entry :=
  correlation.entries.find? fun entry => entry.sourceLine == sourceLine

end Correlation

/-- What is shown where a correlation has no entries. -/
def noListingMessage : String := "No assembly listing for current source file"

end ListingAtlas
