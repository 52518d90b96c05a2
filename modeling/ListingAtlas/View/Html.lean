import ListingAtlas.Correlation.Entry
import ListingAtlas.Table

/-!
The HTML page: a table of numbered rows, one for each source line and one for each instruction below
it. Instructions are tinted by a style class for each color, numbered as the colors first appear.
-/

namespace ListingAtlas.View.Html

/-! ### Characters -/

def escapedChar (character : Char) : List Char :=
  if character == '&' then "&amp;".toList
  else if character == '<' then "&lt;".toList
  else if character == '>' then "&gt;".toList
  else if character == '"' then "&quot;".toList
  else if character == '\'' then "&#x27;".toList
  else [character]

def escape (text : String) : String :=
  String.ofList (text.toList.flatMap escapedChar)

/-! ### Style classes -/

/-- The class of each color, colors in the order of their first entry. -/
abbrev Classes := Table String String

def Classes.add (classes : Classes) (color : String) : Classes :=
  if classes.contains color then classes
  else classes.insert color ("bgc-" ++ toString classes.items.length)

def classesOf (entries : List Entry) : Classes :=
  entries.foldl (fun classes entry => classes.add entry.displayColor) Table.empty

def styleRule (color styleClass : String) : String :=
  "." ++ styleClass ++ " \x7b background: " ++ escape color ++ "; \x7d"

def styleRules (classes : Classes) : String :=
  "\n".intercalate (classes.items.map fun item => styleRule item.1 item.2)

/-! ### Rows -/

structure Row where
  styleClass : String
  sourceLine : Int
  text : String
deriving DecidableEq, Repr

def codeClass : String := "asme-codeline"

def entryRows (classes : Classes) (entry : Entry) : List Row :=
  ⟨codeClass, entry.sourceLine, ";== " ++ entry.sourceText⟩ ::
    entry.assemblyLines.map fun line =>
      ⟨(classes.get? entry.displayColor).getD "", entry.sourceLine, line⟩

def rowMarkup (number : Nat) (row : Row) : String :=
  "<tr class=\"" ++ row.styleClass ++ "\" data-line=\"" ++ toString row.sourceLine ++
    "\"><td class=\"lineno\">" ++ toString number ++ "</td><td>" ++ escape row.text ++ "</td></tr>"

/-- Rows one below the other, the first of them with a number. -/
def rowsMarkup : Nat → List Row → List String
  | _, [] => []
  | number, row :: rows => rowMarkup number row :: rowsMarkup (number + 1) rows

/-! ### Page -/

/-- How every page looks, whatever its colors. -/
def styleSheet : String :=
  "html, body \x7b margin: 0; padding: 0; \x7d\n" ++
    "table \x7b border-collapse: collapse; width: 100%; font-family: monospace; " ++
    "font-size: 12pt; \x7d\n" ++
    "td \x7b padding: 0 0.5em; white-space: pre; \x7d\n" ++
    "td.lineno \x7b color: #999; text-align: right; user-select: none; \x7d\n" ++
    ".asme-codeline \x7b font-style: italic; color: gray; \x7d\n"

def page (title rules body : String) : String :=
  "<!DOCTYPE html>\n<html>\n<head>\n<meta charset=\"utf-8\">\n" ++
    "<title>Assembly Explorer: " ++ title ++ "</title>\n<style>\n" ++ styleSheet ++
    rules ++ "\n</style>\n</head>\n<body>\n" ++ body ++ "\n</body>\n</html>\n"

def tableMarkup (correlation : Correlation) (classes : Classes) : String :=
  let rows := correlation.entries.flatMap (entryRows classes)
  "<table>\n" ++ "\n".intercalate (rowsMarkup 1 rows) ++ "\n</table>"

def render (correlation : Correlation) : String :=
  let title := escape correlation.sourceName
  if correlation.isEmpty then page title "" ("<p>" ++ escape noListingMessage ++ "</p>")
  else
    let classes := classesOf correlation.entries
    page title (styleRules classes) (tableMarkup correlation classes)

end ListingAtlas.View.Html
