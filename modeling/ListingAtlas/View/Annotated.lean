import ListingAtlas.Correlation.Entry

/-!
The annotated listing: each source line as a comment, and its instructions below it.
-/

namespace ListingAtlas.View.Annotated

def headerMark : String := ";== "

def entryLines (entry : Entry) : List String :=
  (headerMark ++ entry.sourceText) :: entry.assemblyLines

def render (correlation : Correlation) : String :=
  if correlation.isEmpty then "; " ++ noListingMessage ++ "\n"
  else "\n".intercalate (correlation.entries.flatMap entryLines) ++ "\n"

end ListingAtlas.View.Annotated
