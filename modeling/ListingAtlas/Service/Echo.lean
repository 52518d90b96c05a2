import ListingAtlas.Failure
import ListingAtlas.Service.Submission

/-!
What a refusal repeats of a body: the value of each finding, except for fields that are marked as
somebody's internals. Numbers that are not finite and halves of surrogate pairs cannot be repeated.
-/

namespace ListingAtlas.Service.Echo

open Number (Binary64)
open Text (CodePoint EditorText)

/-- The beginning of the names of fields that are not repeated. -/
def internalMark : List CodePoint := (EditorText.ofString "_sa").codePoints

def isInternal (name : EditorText) : Bool :=
  internalMark.isPrefixOf name.codePoints

def isUnbounded : Binary64 → Bool
  | .notANumber => true
  | .infinite _ => true
  | _ => false

def holdsHalves (text : EditorText) : Bool :=
  text.codePoints.any CodePoint.isSurrogate

/-- What to look for in a value. -/
structure Search where
  inNumber : Binary64 → Bool
  inText : EditorText → Bool

mutual

/-- Whether what is looked for would be repeated. Of several fields with one name only the last is
there. -/
def finds (search : Search) : Json EditorText → Bool
  | .null => false
  | .bool _ => false
  | .int _ => false
  | .real value => search.inNumber value
  | .text value => search.inText value
  | .list items => findsInItems search items
  | .record fields => findsInFields search fields

def findsInItems (search : Search) : List (Json EditorText) → Bool
  | [] => false
  | item :: items => finds search item || findsInItems search items

def findsInFields (search : Search) : List (EditorText × Json EditorText) → Bool
  | [] => false
  | (name, item) :: fields =>
      (!isInternal name && !(fields.any fun field => field.1 = name) &&
        (search.inText name || finds search item)) || findsInFields search fields

end

def unboundedNumbers : Search :=
  { inNumber := isUnbounded, inText := fun _ => false }

def loneHalves : Search :=
  { inNumber := fun _ => false, inText := holdsHalves }

/-- Why findings cannot be told, if they cannot; numbers are written before text is encoded. -/
def failure? (findings : List Finding) : Option Failure :=
  if findings.any fun finding => finds unboundedNumbers finding.value then some .unboundedNumber
  else if findings.any fun finding => finds loneHalves finding.value then some .untellable
  else none

end ListingAtlas.Service.Echo
