import ListingAtlas.Text.Quoted

/-!
The switches of the command line, and everything that can be wrong with their use.
-/

namespace ListingAtlas.CommandLine

/-- Arguments are read by one of two editions of the rules. They part where a short switch has
something behind it, and where a value is the divider. -/
inductive Edition where
  | early
  | late
deriving DecidableEq, Repr

inductive Switch where
  | help
  | listing
  | command
  | target
  | dialect
  | workingDirectory
  | buildDirectory
  | timeout
  | formats
  | outputDirectory
  | verbose
deriving DecidableEq, Repr

/-- Every spelling, in the order in which candidates are listed. -/
def spellings : List (String × Switch) :=
  [("-h", .help), ("--help", .help), ("--listing", .listing), ("--command", .command),
   ("--target", .target), ("--dialect", .dialect), ("--working-dir", .workingDirectory),
   ("--build-dir", .buildDirectory), ("--timeout", .timeout), ("--formats", .formats),
   ("--output-dir", .outputDirectory), ("-v", .verbose), ("--verbose", .verbose)]

namespace Switch

def takesValue : Switch → Bool
  | .help => false
  | .verbose => false
  | _ => true

/-- All spellings of a switch. -/
def name (switch : Switch) : String :=
  "/".intercalate (spellings.filterMap fun item =>
    if item.2 == switch then some item.1 else none)

end Switch

/-! ### Misuse -/

inductive Misuse where
  | ambiguous (argument : String) (candidates : List String)
  | missingValue (switch : Switch)
  | needlessValue (switch : Switch) (value : String)
  | conflict (switch other : Switch)
  | malformedTimeout (value : String)
  | unknownDialect (value : String) (known : List String)
  | noSource
  | noListing
  | unrecognized (arguments : List String)
deriving DecidableEq, Repr

namespace Misuse

def about (switch : Switch) (fault : String) : String :=
  "argument " ++ switch.name ++ ": " ++ fault

def message : Misuse → String
  | .ambiguous argument candidates =>
      "ambiguous option: " ++ argument ++ " could match " ++ ", ".intercalate candidates
  | .missingValue switch => about switch "expected one argument"
  | .needlessValue switch value =>
      about switch ("ignored explicit argument " ++ Text.quoted value)
  | .conflict switch other => about switch ("not allowed with argument " ++ other.name)
  | .malformedTimeout value => about .timeout ("invalid float value: " ++ Text.quoted value)
  | .unknownDialect value known =>
      about .dialect ("invalid choice: " ++ Text.quoted value ++ " (choose from " ++
        ", ".intercalate (known.map Text.quoted) ++ ")")
  | .noSource => "the following arguments are required: source_file"
  | .noListing =>
      "one of the arguments " ++ Switch.listing.name ++ " " ++ Switch.command.name ++
        " is required"
  | .unrecognized arguments => "unrecognized arguments: " ++ " ".intercalate arguments

end Misuse

end ListingAtlas.CommandLine
