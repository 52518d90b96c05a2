import ListingAtlas.Path
import ListingAtlas.Text.Lowercase

/-!
Source files by name: which ones are compiled, and what their temporary copies and listings are
called.
-/

namespace ListingAtlas.SourceFile

/-- The suffixes of C and C++ sources in lower case. -/
def supportedSuffixes : List String :=
  [".c", ".cc", ".cpp", ".cxx", ".h", ".hh", ".hpp", ".hxx"]

def isSupported (source : Path) : Bool :=
  supportedSuffixes.contains (Text.lowercase source.suffix)

def temporaryMark : String := ".asme-"

def listingSuffix : String := ".asme.asm"

/-- The temporary copy of an absolute source stands next to it, so that its includes still lead to
the same files. -/
def temporaryCopy (source : Path) : Path :=
  source.parent.child (temporaryMark ++ source.name)

/-- The listing of an absolute source, in an absolute build directory. -/
def listing (source buildDirectory : Path) : Path :=
  buildDirectory.child (source.stem ++ listingSuffix)

end ListingAtlas.SourceFile
