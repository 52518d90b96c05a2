import ListingAtlas.CommandLine.Argument
import ListingAtlas.Compile.Watch
import ListingAtlas.Listing.Msvc
import ListingAtlas.Number.Reading

/-!
What a command line asks for: a source file and the values of switches. Switches and the source may
come in any order, and the last value of a switch counts.
-/

namespace ListingAtlas.CommandLine

open Compile (Limit)
open Number (Binary64)

/-- What a switch is given. In the early edition a value that is the divider is void: it is given,
and holds nothing. -/
inductive Value where
  | text (value : String)
  | void
deriving DecidableEq, Repr

namespace Value

def ofCharacters (edition : Edition) (characters : List Char) : Value :=
  let value := String.ofList characters
  if edition == .early && value == dividerText then .void else .text value

/-- The text, where a void value counts as an empty one. -/
def toText : Value → String
  | .text value => value
  | .void => ""

end Value

/-- How long a compiler may take, as it is given. -/
inductive Timeout where
  | seconds (value : Binary64)
  | void
deriving DecidableEq, Repr

def Timeout.limit : Timeout → Limit
  | .seconds value => .seconds value
  | .void => .void

structure Options where
  listing : Option String := none
  command : Option Value := none
  target : Option String := none
  dialect : Value := .text Listing.defaultDialect
  workingDirectory : Option String := none
  buildDirectory : Option String := none
  timeout : Option Timeout := none
  formats : Option String := none
  outputDirectory : Option String := none
  verbose : Bool := false
deriving DecidableEq, Repr

structure Invocation where
  source : String
  options : Options
deriving DecidableEq, Repr

/-- Why a command line asks for no run. -/
inductive Stop where
  | help
  | misuse (misuse : Misuse)
deriving DecidableEq, Repr

/-! ### Values -/

namespace Options

def setListing (options : Options) (value : Value) : Except Misuse Options :=
  if options.command.isSome then .error (.conflict .listing .command)
  else .ok { options with listing := some value.toText }

def setCommand (options : Options) (value : Value) : Except Misuse Options :=
  if options.listing.isSome then .error (.conflict .command .listing)
  else .ok { options with command := some value }

def setDialect (options : Options) (value : Value) : Except Misuse Options :=
  let known := Listing.dialectKeys
  match value with
  | .void => .ok { options with dialect := .void }
  | .text key =>
      if known.contains key then .ok { options with dialect := .text key }
      else .error (.unknownDialect key known)

def setTimeout (options : Options) (value : Value) : Except Misuse Options :=
  match value with
  | .void => .ok { options with timeout := some .void }
  | .text limit =>
      match Number.readBinary64? limit.toList with
      | some seconds => .ok { options with timeout := some (.seconds seconds) }
      | none => .error (.malformedTimeout limit)

def set (options : Options) (switch : Switch) (value : Value) : Except Misuse Options :=
  match switch with
  | .listing => options.setListing value
  | .command => options.setCommand value
  | .target => .ok { options with target := some value.toText }
  | .dialect => options.setDialect value
  | .workingDirectory => .ok { options with workingDirectory := some value.toText }
  | .buildDirectory => .ok { options with buildDirectory := some value.toText }
  | .timeout => options.setTimeout value
  | .formats => .ok { options with formats := some value.toText }
  | .outputDirectory => .ok { options with outputDirectory := some value.toText }
  | .help => .ok options
  | .verbose => .ok { options with verbose := true }

end Options

/-! ### Short switches run together -/

/-- The switches without values that an argument is made of, and what is left of it. -/
structure Flags where
  switches : List Switch
  left : Option String

def Flags.after (switch : Switch) (flags : Flags) : Flags :=
  { flags with switches := switch :: flags.switches }

/-- What a switch without a value is followed by, where no switch goes on: in the early edition a
value, in the late one a value behind an equals sign or a hyphen, and else a switch that is left. -/
def strayLetter (edition : Edition) (switch : Switch) (letter : Char) (rest : List Char) :
    Except Misuse Flags :=
  match edition, letter with
  | .early, _ => .error (.needlessValue switch (String.ofList (letter :: rest)))
  | .late, '=' => .error (.needlessValue switch (String.ofList rest))
  | .late, '-' => .error (.needlessValue switch (String.ofList (letter :: rest)))
  | .late, _ => .ok { switches := [switch], left := some (String.ofList ('-' :: letter :: rest)) }

def splitAdjoined (edition : Edition) (switch : Switch) : List Char → Except Misuse Flags
  | [] => .ok { switches := [switch], left := none }
  | letter :: rest =>
      match spellings.lookup (String.ofList ['-', letter]) with
      | none => strayLetter edition switch letter rest
      | some next => (splitAdjoined edition next rest).map (Flags.after switch)

def splitFlags (edition : Edition) (switch : Switch) : Attached → Except Misuse Flags
  | .nothing => .ok { switches := [switch], left := none }
  | .assigned value => .error (.needlessValue switch (String.ofList value))
  | .adjoined rest => splitAdjoined edition switch rest

/-! ### Reading arguments -/

/-- What has been read so far. -/
structure Reading where
  source : Option String
  options : Options
  unrecognized : List String

namespace Reading

def initial : Reading :=
  { source := none, options := {}, unrecognized := [] }

def reject (reading : Reading) (text : String) : Reading :=
  { reading with unrecognized := reading.unrecognized ++ [text] }

def raiseFlag (reading : Reading) : Switch → Except Stop Reading
  | .help => .error .help
  | switch =>
      match reading.options.set switch .void with
      | .ok options => .ok { reading with options }
      | .error misuse => .error (.misuse misuse)

def raiseFlags (reading : Reading) (edition : Edition) (switch : Switch) (attached : Attached) :
    Except Stop Reading :=
  match splitFlags edition switch attached with
  | .error misuse => .error (.misuse misuse)
  | .ok flags => flags.switches.foldlM raiseFlag (flags.left.elim reading reading.reject)

def assign (reading : Reading) (switch : Switch) (value : Value) : Except Stop Reading :=
  match reading.options.set switch value with
  | .ok options => .ok { reading with options }
  | .error misuse => .error (.misuse misuse)

/-- The first plain argument is the source, and with it goes the divider next to it. -/
def readAll (edition : Edition) : Reading → List Argument → Except Stop Reading
  | reading, [] => .ok reading
  | reading, .unknown text :: rest => readAll edition (reading.reject text) rest
  | reading, .plain text :: rest =>
      match reading.source, rest with
      | none, .divider :: others => readAll edition { reading with source := some text } others
      | none, rest => readAll edition { reading with source := some text } rest
      | some _, rest => readAll edition (reading.reject text) rest
  | reading, .divider :: rest =>
      match reading.source, rest with
      | none, .plain text :: others => readAll edition { reading with source := some text } others
      | _, rest => readAll edition (reading.reject dividerText) rest
  | reading, .switch switch attached :: rest =>
      if switch.takesValue then
        match attached, rest with
        | .nothing, .plain value :: others => do
            readAll edition (← reading.assign switch (.text value)) others
        | .nothing, _ => .error (.misuse (.missingValue switch))
        | .assigned value, rest => do
            readAll edition (← reading.assign switch (.ofCharacters edition value)) rest
        | .adjoined value, rest => do
            readAll edition (← reading.assign switch (.ofCharacters edition value)) rest
      else do
        readAll edition (← reading.raiseFlags edition switch attached) rest

/-- A complete command line names a source, and a listing or a command. -/
def invocation (reading : Reading) : Except Misuse Invocation :=
  match reading.source with
  | none => .error .noSource
  | some source =>
      if reading.options.listing.isNone && reading.options.command.isNone then .error .noListing
      else if reading.unrecognized.isEmpty then .ok { source, options := reading.options }
      else .error (.unrecognized reading.unrecognized)

end Reading

def Invocation.parse (edition : Edition) (arguments : List String) : Except Stop Invocation :=
  match classifyAll edition arguments with
  | .error misuse => .error (.misuse misuse)
  | .ok arguments => do
      let reading ← Reading.initial.readAll edition arguments
      match reading.invocation with
      | .ok invocation => .ok invocation
      | .error misuse => .error (.misuse misuse)

end ListingAtlas.CommandLine
