import ListingAtlas.Failure
import ListingAtlas.Log
import ListingAtlas.Span
import ListingAtlas.Workspace

/-!
Compiler processes. What a process does is written down beforehand: whether it starts, how long it
takes, what listing and output it writes, and its status. The system carries that out, or a rehearsal
does. A tick of time is one second.
-/

namespace ListingAtlas.Compile

open Text (Bytes)

/-- What a process does once it has started. -/
structure Script where
  /-- How long it takes; without that it hangs. -/
  duration : Option Span
  listing : Option Bytes
  output : Option Bytes
  status : Int
deriving DecidableEq, Repr

/-- To the system a process that takes immeasurably long is one that hangs. -/
def Script.unhurried (script : Script) : Script :=
  { script with duration := script.duration.filter fun span => span != .immeasurable }

/-- What comes of a process that has ended: its output, or that it failed. -/
def Script.outcome (script : Script) : Except Failure String :=
  let output := Text.decodeUtf8 (script.output.getD [])
  if script.status == 0 then .ok output else .error (.compilerExited script.status output)

inductive Behaviour where
  | refuses (reason : String)
  | runs (script : Script)
deriving DecidableEq, Repr

def Behaviour.launch : Behaviour → Except Failure Script
  | .refuses reason => .error (.compilerNotStarted reason)
  | .runs script => .ok script

/-- A process that ends at once and writes nothing. -/
def Behaviour.silent : Behaviour :=
  .runs { duration := some (.ticks 0), listing := none, output := some [], status := 0 }

/-- A start of a process, with what the file named last held at that moment. -/
structure Run where
  program : String
  arguments : List String
  directory : String
  source : Option Bytes
  killed : Bool
deriving DecidableEq, Repr

/-- Who carries out what a process does. -/
inductive Host where
  | system
  /-- Whoever waits for the process does so itself, and fails where its script cannot be followed. -/
  | rehearsal
deriving DecidableEq, Repr

/-- The files, the starts so far, and the behaviours of the starts to come; the last behaviour
stays for all further ones. -/
structure Site where
  workspace : Workspace
  runs : List Run
  behaviours : List Behaviour
  host : Host := .system

/-- A process that has started, and its place among the runs. -/
structure Process where
  index : Nat
  arguments : List String
  script : Script
deriving DecidableEq, Repr

namespace Site

def nextBehaviour (site : Site) : Behaviour × List Behaviour :=
  match site.behaviours with
  | [] => (.silent, [])
  | [behaviour] => (behaviour, [behaviour])
  | behaviour :: others => (behaviour, others)

/-- The content of the file that the last argument names. -/
def sourceOf (workspace : Workspace) (arguments : List String) : Option Bytes :=
  match arguments.getLast? with
  | none => none
  | some path =>
      match workspace.lookUp (Path.parse path) with
      | .ok (.file content) => some content
      | _ => none

/-- What comes of a start. The system takes no null in what it is told. -/
def launch (site : Site) (program : String) (arguments : List String) (directory : String) :
    Except Failure Script :=
  let launched := site.nextBehaviour.1.launch
  match site.host with
  | .rehearsal => launched
  | .system =>
      if (program :: directory :: arguments).any fun text => text.toList.contains '\x00' then
        .error .nullInPath
      else launched.map Script.unhurried

/-- Start a process, or learn why it does not start; either is a run. -/
def start (site : Site) (program : String) (arguments : List String) (directory : String) :
    Site × Except Failure Process :=
  let run : Run :=
    { program, arguments, directory
      source := sourceOf site.workspace arguments
      killed := false }
  ({ site with runs := site.runs ++ [run], behaviours := site.nextBehaviour.2 },
    (site.launch program arguments directory).map fun script =>
      { index := site.runs.length, arguments, script })

def kill (site : Site) (process : Process) : Site :=
  { site with runs := site.runs.modify process.index fun run => { run with killed := true } }

end Site

/-! ### The end of a process -/

/-- The option that names the listing. -/
def listingOption : List Char := "/Fa".toList

/-- The path behind the first listing option. -/
def listingPath? (arguments : List String) : Option String :=
  (arguments.find? fun argument => listingOption.isPrefixOf argument.toList).map fun argument =>
    String.ofList (argument.toList.drop listingOption.length)

def temporaryMarker : Bytes := Text.encodeUtf8 "@TEMP@"

/-- Every marker replaced, from the front; the count of bytes to pass over belongs to the marker
replaced last. -/
def replaceMarker (replacement : Bytes) : Nat → Bytes → Bytes
  | _, [] => []
  | passed + 1, _ :: rest => replaceMarker replacement passed rest
  | 0, byte :: rest =>
      if temporaryMarker.isPrefixOf (byte :: rest) then
        replacement ++ replaceMarker replacement (temporaryMarker.length - 1) rest
      else byte :: replaceMarker replacement 0 rest

/-- The listing that a process leaves, its marker replaced by the last argument. -/
def writtenListing (arguments : List String) (listing : Bytes) : Bytes :=
  replaceMarker (Text.encodeUtf8 (arguments.getLast?.getD "")) 0 listing

/-- A process ends: it writes its listing, if it has one and knows where. One that cannot write it
leaves none, and in a rehearsal is the caller's failure. -/
def Site.finish (site : Site) (process : Process) : Except Failure Site :=
  match process.script.listing, listingPath? process.arguments with
  | some listing, some path =>
      let written := writtenListing process.arguments listing
      match site.workspace.writeBytes (Path.parse path) written, site.host with
      | .ok workspace, _ => .ok { site with workspace }
      | .error _, .system => .ok site
      | .error failure, .rehearsal => .error failure
  | _, _ => .ok site

end ListingAtlas.Compile
