import ListingAtlas.Text.Blank

/-!
What a line of a listing means. A dialect says how its markers are spelled; the order in which the
markers are tried is the same for all dialects.
-/

namespace ListingAtlas.Listing

inductive LineKind where
  | fileDirective
  | segmentOpen
  | segmentClose
  | lineDirective
  | comment
  | blank
  | unindented
  | instruction
deriving DecidableEq, Repr

def LineKind.name : LineKind → String
  | .fileDirective => "file_directive"
  | .segmentOpen => "segment_open"
  | .segmentClose => "segment_close"
  | .lineDirective => "line_directive"
  | .comment => "comment"
  | .blank => "blank"
  | .unindented => "unindented"
  | .instruction => "instruction"

structure Dialect where
  name : String
  /-- The path that a file directive announces. -/
  announcedFile? : String → Option String
  /-- Whether a line announces just this path. -/
  namesFile : (line path : String) → Bool
  opensSegment : String → Bool
  closesSegment : String → Bool
  /-- The number of a line directive as it is written. -/
  lineToken? : String → Option String
  isComment : String → Bool
  isInstruction : String → Bool

def Dialect.classify (dialect : Dialect) (line : String) : LineKind :=
  if (dialect.announcedFile? line).isSome then .fileDirective
  else if dialect.opensSegment line then .segmentOpen
  else if dialect.closesSegment line then .segmentClose
  else if (dialect.lineToken? line).isSome then .lineDirective
  else if dialect.isComment line then .comment
  else if line.toList.all Text.isBlank then .blank
  else if dialect.isInstruction line then .instruction
  else .unindented

end ListingAtlas.Listing
