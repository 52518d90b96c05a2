import ListingAtlas.Failure
import ListingAtlas.Number.Reading
import ListingAtlas.Text.Blank
import ListingAtlas.Text.Lowercase

/-!
What the environment decides: the palette, the separator of instructions, timings, and the address
of the service.
-/

namespace ListingAtlas

/-- The variables that count, each if it is set. -/
structure Environment where
  palette : Option String := none
  lineSeparator : Option String := none
  debounce : Option String := none
  compileTimeout : Option String := none
  host : Option String := none
  port : Option String := none
deriving DecidableEq, Repr

def Environment.ofVariables (settings : List (String × String)) : Environment :=
  { palette := settings.lookup "ASME_PALETTE"
    lineSeparator := settings.lookup "ASME_LINE_SEPARATOR"
    debounce := settings.lookup "ASME_DEBOUNCE_SECONDS"
    compileTimeout := settings.lookup "ASME_COMPILE_TIMEOUT"
    host := settings.lookup "ASME_HOST"
    port := settings.lookup "ASME_PORT" }

/-! ### Palette -/

abbrev Palette := List String

/-- Eight pastel colors. -/
def defaultPalette : Palette :=
  ["#fbb4ae", "#b3cde3", "#ccebc5", "#decbe4", "#fed9a6", "#ffffcc", "#e5d8bd", "#fddaec"]

def isHexDigit (character : Char) : Bool :=
  character.isDigit || ('a' ≤ character && character ≤ 'f') ||
    ('A' ≤ character && character ≤ 'F')

/-- A color is a number sign and three or six hexadecimal digits. -/
def isColor (color : List Char) : Bool :=
  match color with
  | '#' :: digits => (digits.length == 3 || digits.length == 6) && digits.all isHexDigit
  | _ => false

/-- What the check of a palette lets through: a color, perhaps with one line feed behind it. -/
def passesForColor (text : List Char) : Bool :=
  isColor text || (text.getLast? == some '\n' && isColor text.dropLast)

/-- The pieces of a text between the places of a separator; always one more than there are. -/
def splitAt (separator : Char) : List Char → List (List Char)
  | [] => [[]]
  | character :: rest =>
      if character == separator then [] :: splitAt separator rest
      else
        match splitAt separator rest with
        | [] => [[character]]
        | piece :: pieces => (character :: piece) :: pieces

/-- The pieces between commas, trimmed, without those that are blank. -/
def commaSeparated (text : List Char) : List (List Char) :=
  ((splitAt ',' text).map Text.trimChars).filter fun piece => !piece.isEmpty

def loadPalette (environment : Environment) : Except Failure Palette :=
  let written := Text.trimChars (environment.palette.getD "").toList
  if written.isEmpty then .ok defaultPalette
  else
    let colors := commaSeparated written
    match colors.find? fun color => !passesForColor color with
    | some color => .error (.invalidColor (String.ofList color))
    | none => if colors.isEmpty then .error .noColors else .ok (colors.map String.ofList)

/-! ### Separator -/

def lineSeparators : List (String × String) :=
  [("crlf", "\r\n"), ("lf", "\n")]

def loadLineSeparator (environment : Environment) : Except Failure String :=
  let written := (environment.lineSeparator.getD "crlf").toList
  let name := String.ofList (Text.lowercaseChars (Text.trimChars written))
  match lineSeparators.lookup name with
  | some separator => .ok separator
  | none => .error (.unknownSeparator name)

/-! ### Timings and address -/

structure Timings where
  debounce : Number.Binary64
  compileTimeout : Option Number.Binary64
  host : String
  port : Int

def readDecimal (text : String) : Except Failure Number.Binary64 :=
  match Number.readBinary64? text.toList with
  | some number => .ok number
  | none => .error (.malformedDecimal text)

def readInteger (text : String) : Except Failure Int :=
  match Number.readInt text.toList with
  | .ok number => .ok number
  | .error .malformed => .error (.malformedInteger text)
  | .error (.tooLong digits) => .error (.numeralTooLong digits)

def defaultDebounce : Number.Binary64 := Number.ofInt 1

def defaultHost : String := "127.0.0.1"

def defaultPort : Int := 8000

/-- A timeout that is set but blank is none. -/
def loadTimeout (environment : Environment) : Except Failure (Option Number.Binary64) :=
  let written := Text.trim (environment.compileTimeout.getD "")
  if written.isEmpty then .ok none else (readDecimal written).map some

def loadTimings (environment : Environment) : Except Failure Timings := do
  let debounce ← match environment.debounce with
    | some text => readDecimal text
    | none => .ok defaultDebounce
  let compileTimeout ← loadTimeout environment
  let port ← match environment.port with
    | some text => readInteger text
    | none => .ok defaultPort
  return { debounce, compileTimeout, host := environment.host.getD defaultHost, port }

end ListingAtlas
