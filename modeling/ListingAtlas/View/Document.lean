import ListingAtlas.Correlation.Entry
import ListingAtlas.Json.Printer

/-!
The two JSON documents: the entries as records, and the decorations that an editor shows for them.
-/

namespace ListingAtlas.View.Document

/-! ### Entries -/

def entryRecord (entry : Entry) : Json String :=
  .record
    [("line", .int entry.sourceLine), ("code", .text entry.sourceText),
     ("assembly", .text entry.assemblyText), ("color", .text entry.displayColor)]

def listing (correlation : Correlation) : Json String :=
  .record
    [("source_file", .text correlation.sourceName),
     ("entries", .list (correlation.entries.map entryRecord))]

/-! ### Decorations -/

/-- The swatch behind a source line. -/
def swatch : Json String :=
  .record
    [("width", .text "1.1em"), ("height", .text "1.1em"), ("margin", .text "0 0.2em 0 0.2em"),
     ("border", .text "0.1em solid gray"), ("contentText", .text " ")]

/-- A place in a document; lines and characters count from zero. -/
def position (line character : Int) : Json String :=
  .record [("line", .int line), ("character", .int character)]

/-- The decoration of an entry covers the whole text of its line. -/
def decoration (entry : Entry) : Json String :=
  .record
    [("source_line", .int entry.sourceLine),
     ("range", .record
       [("start", position (entry.sourceLine - 1) 0),
        ("end", position (entry.sourceLine - 1) entry.sourceText.length)]),
     ("hoverMessage", .record
       [("language", .text "asm"), ("value", .text entry.assemblyText)]),
     ("renderOptions", .record
       [("after", .record [("backgroundColor", .text entry.displayColor)])])]

def decorations (correlation : Correlation) : Json String :=
  .record
    [("source_file", .text correlation.sourceName), ("swatch", swatch),
     ("decorations", .list (correlation.entries.map decoration))]

/-- A document ends with a line feed. -/
def asFile (document : Json String) : String :=
  document.render ++ "\n"

end ListingAtlas.View.Document
