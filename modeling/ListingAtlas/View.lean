import ListingAtlas.Failure
import ListingAtlas.View.Annotated
import ListingAtlas.View.Document
import ListingAtlas.View.Html

/-!
The views of a correlation and the files they are saved as.
-/

namespace ListingAtlas

structure View where
  key : String
  name : String
  /-- What the name of its file adds to the stem of the source. -/
  suffix : String
  mediaType : String
  content : Correlation → String
  /-- The line numbers that the content spells. -/
  numbers : Correlation → List Int

namespace View

def annotated : View :=
  { key := "annotated"
    name := "Annotated listing"
    suffix := "-annotated.asm"
    mediaType := "text/plain"
    content := Annotated.render
    numbers := fun _ => [] }

def html : View :=
  { key := "html"
    name := "HTML explorer view"
    suffix := "-explorer.html"
    mediaType := "text/html"
    content := Html.render
    numbers := fun correlation => correlation.entries.map Entry.sourceLine }

def json : View :=
  { key := "json"
    name := "JSON listing"
    suffix := "-listing.json"
    mediaType := "application/json"
    content := fun correlation => Document.asFile (Document.listing correlation)
    numbers := fun correlation => (Document.listing correlation).integers }

def decorations : View :=
  { key := "decorations"
    name := "Editor decorations"
    suffix := "-decorations.json"
    mediaType := "application/json"
    content := fun correlation => Document.asFile (Document.decorations correlation)
    numbers := fun correlation => (Document.decorations correlation).integers }

/-- The content, unless a number in it is too long to be written. No line of a listing has such a
number and no text is so long, so a listing is shown by the content as it is. -/
def spelled (view : View) (correlation : Correlation) : Except Failure String :=
  if (view.numbers correlation).any Number.isTooLong then .error .numberTooLong
  else .ok (view.content correlation)

/-- Every view, in the order in which they are made. -/
def all : List View := [annotated, html, json, decorations]

def find? (key : String) : Option View :=
  all.find? fun view => view.key == key

/-- The views in the order of their keys. -/
def sorted : List View :=
  all.mergeSort fun first second => first.key ≤ second.key

def availableKeys : String :=
  ", ".intercalate (sorted.map View.key)

end View

end ListingAtlas
