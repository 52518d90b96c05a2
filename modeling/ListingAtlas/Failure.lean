import ListingAtlas.Number.Written
import ListingAtlas.Text.EditorText

/-!
Everything that can go wrong, each cause with its message.
-/

namespace ListingAtlas

/-- Why a path could not be used. -/
inductive PathProblem where
  | missing
  | notDirectory
  | isDirectory
  | nameTooLong
deriving DecidableEq, Repr

def PathProblem.number : PathProblem → Nat
  | .missing => 2
  | .notDirectory => 20
  | .isDirectory => 21
  | .nameTooLong => 36

def PathProblem.reason : PathProblem → String
  | .missing => "No such file or directory"
  | .notDirectory => "Not a directory"
  | .isDirectory => "Is a directory"
  | .nameTooLong => "File name too long"

inductive Failure where
  /-- A line directive whose number is none; positions count from one. -/
  | malformedDirective (position : Int) (line : String)
  | unreadableListing (path reason : String)
  | numeralTooLong (digits : Nat)
  /-- A number of more digits than are written. -/
  | numberTooLong
  | malformedInteger (text : String)
  | malformedDecimal (text : String)
  | emptyPalette
  | invalidColor (color : String)
  | noColors
  | unknownSeparator (name : String)
  | noSuchSourceLine
  /-- A line so far before the first that no index leads to it. -/
  | unreachableSourceLine
  | unknownDialect (key available : String)
  | emptyCommand
  | unknownCompiler (program : String)
  | unsupportedCompiler (program : String)
  | compilerNotStarted (reason : String)
  | compilerExited (status : Int) (output : String)
  | compilerTimedOut (limit : Number.Binary64)
  | unusablePath (problem : PathProblem) (path : String)
  | nullInPath
  /-- Neither a listing nor a command that would generate one. -/
  | missingCommand
  /-- Commands, dialects and limits that are given and yet hold nothing. -/
  | voidCommand
  | voidDialect
  | voidLimit
  /-- A time that no clock measures. -/
  | immeasurableTime
  /-- Text that no bytes can express. -/
  | unencodable (halves : Text.LoneHalves)
  /-- A document with such text in it. -/
  | unwritable (halves : Text.LoneHalves)
  /-- A reply that would tell such text. -/
  | untellable
  /-- A reply that would tell a number which is not finite. -/
  | unboundedNumber
  /-- A text that no header can hold. -/
  | unheadable (text : String)
  /-- Failures that a correlator of the caller's own reports, by kind. -/
  | compilation (message : String)
  | correlation (message : String)
  | unexpected (message : String)
deriving DecidableEq, Repr

namespace Failure

/-- Messages quote a refused integer only in part. -/
def quotedInteger (text : String) : String :=
  String.ofList ((Text.quoted text).toList.take 200)

def directiveMessage (position : Int) (quotedLine : String) : String :=
  "Malformed line-number directive at listing line " ++ toString position ++ ": " ++ quotedLine

def unencodableMessage (halves : Text.LoneHalves) : String :=
  let place :=
    if halves.count == 1 then
      "character '\\u" ++ String.ofList (Text.hexadecimal 4 halves.unit) ++ "' in position " ++
        toString halves.position
    else
      "characters in position " ++ toString halves.position ++ "-" ++
        toString (halves.position + halves.count - 1)
  "'utf-8' codec can't encode " ++ place ++ ": surrogates not allowed"

def message : Failure → String
  | .malformedDirective position line => directiveMessage position (Text.quoted line)
  | .unreadableListing path reason => "Cannot read listing " ++ path ++ ": " ++ reason
  | .numeralTooLong digits =>
      "Exceeds the limit (4300 digits) for integer string conversion: value has " ++
        toString digits ++ " digits; use sys.set_int_max_str_digits() to increase the limit"
  | .numberTooLong =>
      "Exceeds the limit (4300 digits) for integer string conversion; " ++
        "use sys.set_int_max_str_digits() to increase the limit"
  | .malformedInteger text => "invalid literal for int() with base 10: " ++ quotedInteger text
  | .malformedDecimal text => "could not convert string to float: " ++ Text.quoted text
  | .emptyPalette => "Display palette must contain at least one color"
  | .invalidColor color =>
      "Invalid color '" ++ color ++ "' in ASME_PALETTE. " ++
        "Use comma-separated hex colors like #fbb4ae."
  | .noColors => "ASME_PALETTE is set but contains no colors."
  | .unknownSeparator name =>
      "ASME_LINE_SEPARATOR must be 'crlf' or 'lf', got '" ++ name ++ "'"
  | .noSuchSourceLine => "list index out of range"
  | .unreachableSourceLine => "cannot fit 'int' into an index-sized integer"
  | .unknownDialect key available =>
      "Unknown listing dialect '" ++ key ++ "'. Available: " ++ available
  | .emptyCommand => "Compile command is empty"
  | .unknownCompiler program => "Unknown compiler: " ++ program
  | .unsupportedCompiler program =>
      "Listings from " ++ program ++ " are not supported yet (MSVC only)"
  | .compilerNotStarted reason => "Compiler could not be started: " ++ reason
  | .compilerExited status _ => "Compiler exited with status " ++ toString status
  | .compilerTimedOut limit =>
      "Compiler did not finish within " ++ Number.oneDecimal limit ++ "s"
  | .unusablePath problem path =>
      "[Errno " ++ toString problem.number ++ "] " ++ problem.reason ++ ": " ++ Text.quoted path
  | .nullInPath => "embedded null byte"
  | .missingCommand => "expected string or bytes-like object, got 'NoneType'"
  | .voidCommand => "expected string or bytes-like object, got 'list'"
  | .voidDialect => "unhashable type: 'list'"
  | .voidLimit => "'<=' not supported between instances of 'list' and 'int'"
  | .immeasurableTime => "int too large to convert to float"
  | .unencodable halves => unencodableMessage halves
  | .unwritable halves =>
      "Error serializing to JSON: UnicodeEncodeError: " ++ unencodableMessage halves
  | .untellable => "half of a surrogate pair cannot be told"
  | .unboundedNumber => "Out of range float values are not JSON compliant"
  | .unheadable text => "a header cannot hold " ++ Text.quoted text
  | .compilation text => text
  | .correlation text => text
  | .unexpected text => text

/-- What a compiler that failed left to read. -/
def compilerOutput : Failure → String
  | .compilerNotStarted reason => reason
  | .compilerExited _ output => output
  | _ => ""

end Failure

/-! ### Classes of failures -/

inductive FailureClass where
  | unknownCompiler (program : String)
  | unsupportedCompiler (program : String)
  | compilation
  | correlation
  | unexpected
deriving DecidableEq, Repr

/-- Where a failure belongs; what neither compiling nor correlating accounts for is unexpected. -/
def Failure.classOf : Failure → FailureClass
  | .unknownCompiler program => .unknownCompiler program
  | .unsupportedCompiler program => .unsupportedCompiler program
  | .compilerNotStarted _ => .compilation
  | .compilerExited .. => .compilation
  | .compilerTimedOut _ => .compilation
  | .compilation _ => .compilation
  | .malformedDirective .. => .correlation
  | .unreadableListing .. => .correlation
  | .correlation _ => .correlation
  | _ => .unexpected

end ListingAtlas
