import ListingAtlas.Correlation.Entry
import ListingAtlas.Listing.Attribution
import ListingAtlas.Settings

/-!
Making entries of the blocks of a listing: the source text of each line, its color, and the entries
in the order of the source.
-/

namespace ListingAtlas

/-- The lines of a source document; a break at its end begins no further line. -/
def sourceLines (source : String) : List String :=
  let lines := Text.linesAtBreaks source
  if lines.getLast? == some "" then lines.dropLast else lines

/-- Neighbouring lines are this many colors apart. -/
def colorSpread : Int := 11

def displayColor (palette : Palette) (sourceLine : Int) : Except Failure String :=
  match palette[(Int.fmod (sourceLine * colorSpread) palette.length).toNat]? with
  | some color => .ok color
  | none => .error .emptyPalette

/-- Indices are signed words of 64 bits. -/
def leastIndex : Int := -(Number.twoTo 63 : Int)

/-- The text of a line. Lines beyond the end count as the last one, and those before the first are
counted from the end. -/
def sourceTextAt (lines : List String) (sourceLine : Int) : Except Failure String :=
  if lines.isEmpty then .ok ""
  else
    let index := min sourceLine lines.length - 1
    let fromStart := if index < 0 then index + lines.length else index
    if index < leastIndex then .error .unreachableSourceLine
    else if fromStart < 0 then .error .noSuchSourceLine
    else
      match lines[fromStart.toNat]? with
      | some text => .ok text
      | none => .error .noSuchSourceLine

def makeEntry (palette : Palette) (separator : String) (lines : List String)
    (block : Int × List String) : Except Failure Entry := do
  let sourceText ← sourceTextAt lines block.1
  let color ← displayColor palette block.1
  return { sourceLine := block.1
           sourceText
           assemblyText := separator.intercalate block.2
           displayColor := color }

/-- One entry for each block, in ascending order of source lines. -/
def assemble (palette : Palette) (separator : String) (lines : List String)
    (blocks : Listing.Blocks) : Except Failure (List Entry) :=
  (blocks.items.mapM (makeEntry palette separator lines)).map fun entries =>
    entries.mergeSort fun first second => first.sourceLine ≤ second.sourceLine

/-- How entries are presented; a separator that is not given is the configured one. -/
structure Presentation where
  palette : Palette
  separator : Except Failure String

def Presentation.configured (environment : Environment) (palette : Palette) : Presentation :=
  { palette, separator := loadLineSeparator environment }

/-- Correlate a listing with a source document. The target is the path that the listing spells, and
the name the one that the result goes by. -/
def correlate (dialect : Listing.Dialect) (presentation : Presentation)
    (listing target source name : String) : Except Failure Correlation := do
  let lines := sourceLines source
  let blocks ← Listing.blocksOf dialect ⟨target, lines.length⟩ listing
  let separator ← presentation.separator
  let entries ← assemble presentation.palette separator lines blocks
  return { sourceName := name, entries }

end ListingAtlas
