import ListingAtlas.CommandLine.Run

/-!
The program as a whole: its arguments make it explain itself, complain, serve requests, or run.
-/

namespace ListingAtlas.CommandLine

open Compile (Site)

def programName : String := "asm-explorer"

/-! ### Explanations -/

def usage : String :=
  "usage: " ++ programName ++ " [-h] (--listing LISTING | --command COMMAND) [--target TARGET]\n" ++
  "                    [--dialect DIALECT] [--working-dir WORKING_DIR]\n" ++
  "                    [--build-dir BUILD_DIR] [--timeout TIMEOUT] [--formats FORMATS]\n" ++
  "                    [--output-dir OUTPUT_DIR] [-v]\n" ++
  "                    source_file\n"

/-- What each switch is for. -/
def explanations : List (Switch × String) :=
  [(.help, "show this help message and exit"),
   (.listing, "path to an existing assembly listing"),
   (.command, "compile command; it is rewritten to produce a listing"),
   (.target, "path by which the listing names the source file"),
   (.dialect, "listing dialect"),
   (.workingDirectory, "directory to run the compile command in"),
   (.buildDirectory, "directory to write the generated listing to"),
   (.timeout, "seconds to wait for the compiler"),
   (.formats, "output formats between commas: " ++ View.availableKeys),
   (.outputDirectory, "directory to save output files in"),
   (.verbose, "log what the compiler is asked to do")]

def explanationLine (switch : Switch) (text : String) : String :=
  "  " ++ switch.name ++ "\n        " ++ text

def help : String :=
  usage ++ "\n" ++ printed (explanations.map fun item => explanationLine item.1 item.2)

/-! ### The program -/

def explain (site : Site) : Outcome :=
  { site, output := help, errors := "", ending := .exited 0 }

def complain (site : Site) (misuse : Misuse) : Outcome :=
  { site
    output := ""
    errors := usage ++ programName ++ ": error: " ++ misuse.message ++ "\n"
    ending := .exited 2 }

def run (edition : Edition) (environment : Environment) (configured : Option Number.Binary64)
    (site : Site) (arguments : List String) : Outcome :=
  match Invocation.parse edition arguments with
  | .error .help => explain site
  | .error (.misuse misuse) => complain site misuse
  | .ok invocation => (runInvocation environment configured site invocation).outcome

def serveSwitch : String := "--serve"

/-- The switch for serving counts wherever it stands, and nothing else does beside it. -/
def serves (arguments : List String) : Bool :=
  arguments.contains serveSwitch

end ListingAtlas.CommandLine
