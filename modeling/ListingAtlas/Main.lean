import ListingAtlas.CommandLine.Program
import ListingAtlas.Json.Printer
import ListingAtlas.Service.Answer

/-!
The program. It looks at the files that its arguments name, lets a run be worked out on them, and
writes what the run left. It starts no compilers: a compile command fails to start. Asked to serve,
it answers requests from standard input, one a line: a method, a path, and perhaps a body.
-/

namespace ListingAtlas.Program

open CommandLine (Invocation Outcome)
open Compile (Behaviour Site)

/-! ### Looking at files -/

def readBytes? (path : Path) : IO (Option Text.Bytes) := do
  try
    let content ← IO.FS.readBinFile path.toString
    return some content.toList
  catch _ => return none

def lookAtFile (workspace : Workspace) (path : Path) : IO Workspace := do
  let absolute := (workspace.absolute path).withoutSteps
  match ← readBytes? absolute with
  | some content => return workspace.addFile absolute.parts content
  | none => return workspace

/-- The names in a directory; only what was looked at before has its content. -/
def lookAtDirectory (workspace : Workspace) (path : Path) : IO Workspace := do
  let absolute := (workspace.absolute path).withoutSteps
  try
    let directory ← IO.FS.realPath absolute.toString
    let mut seen := workspace.addDirectory absolute.parts
    for entry in ← directory.readDir do
      let place := absolute.parts ++ [entry.fileName]
      if ← entry.path.isDir then seen := seen.addDirectory place
      else if (seen.node? place).isNone then seen := seen.addFile place []
    return seen
  catch _ => return workspace

/-- All that an invocation names. -/
def lookAround (workspace : Workspace) (invocation : Invocation) : IO Workspace := do
  let source := Path.parse invocation.source
  let workspace ← lookAtFile workspace source
  let workspace ← match CommandLine.given? invocation.options.listing with
    | some listing => lookAtFile workspace (Path.parse listing)
    | none => pure workspace
  lookAtDirectory workspace
    (((CommandLine.given? invocation.options.outputDirectory).map Path.parse).getD source.parent)

/-! ### Leaving files -/

def writeChanges (before after : Workspace) : IO Unit := do
  for item in after.nodes.items do
    match item.2 with
    | .file content =>
        if before.nodes.get? item.1 != some (.file content) then
          IO.FS.writeBinFile ("/" ++ "/".intercalate item.1) (ByteArray.mk content.toArray)
    | .directory => pure ()

/-! ### Runs -/

def readEnvironment : IO Environment := do
  let names := ["ASME_PALETTE", "ASME_LINE_SEPARATOR", "ASME_DEBOUNCE_SECONDS",
    "ASME_COMPILE_TIMEOUT", "ASME_HOST", "ASME_PORT"]
  let mut settings := []
  for name in names do
    if let some value ← IO.getEnv name then settings := settings ++ [(name, value)]
  return Environment.ofVariables settings

def orThrow {Result : Type} (outcome : Except Failure Result) : IO Result :=
  match outcome with
  | .ok result => return result
  | .error failure => throw (IO.userError failure.message)

def finish (outcome : Outcome) : IO UInt32 := do
  (← IO.getStdout).putStr outcome.output
  (← IO.getStderr).putStr outcome.errors
  match outcome.ending with
  | .exited status => return status.toUInt32
  | .raised failure => throw (IO.userError failure.message)

def run (environment : Environment) (arguments : List String) : IO UInt32 := do
  let timings ← orThrow (loadTimings environment)
  let directory ← IO.currentDir
  let empty := Workspace.empty (Path.parse directory.toString)
  let workspace ← match Invocation.parse .late arguments with
    | .ok invocation => lookAround empty invocation
    | .error _ => pure empty
  let site : Site :=
    { workspace, runs := [], behaviours := [.refuses "no compilers are run here"] }
  let outcome := CommandLine.run .late environment timings.compileTimeout site arguments
  writeChanges workspace outcome.site.workspace
  finish outcome

/-! ### Requests -/

/-- A word and what stands behind the blank after it. -/
def splitWord (text : List Char) : String × List Char :=
  (String.ofList (text.takeWhile (· != ' ')), (text.dropWhile (· != ' ')).drop 1)

def readRequest (line : String) : Service.Request :=
  let (method, rest) := splitWord (line.toList.takeWhile (· != '\n'))
  let (path, body) := splitWord rest
  { method, path, body := String.ofList body }

def replyText : Service.Reply → String
  | .document _ content => content.render
  | .refusal problems =>
      "\n".intercalate (problems.map fun problem =>
        problem.kind ++ " " ++ ".".intercalate problem.place)
  | .file _ _ content => content
  | .redirect path => path
  | .breakdown _ => Service.Reply.breakdownText

partial def serve (environment : Environment) : IO UInt32 := do
  let line ← (← IO.getStdin).getLine
  if line.isEmpty then return 0
  let reply := Service.answer environment (readRequest line)
  IO.println (toString reply.status)
  IO.println (replyText reply)
  serve environment

end ListingAtlas.Program

def main (arguments : List String) : IO UInt32 := do
  let environment ← ListingAtlas.Program.readEnvironment
  if ListingAtlas.CommandLine.serves arguments then ListingAtlas.Program.serve environment
  else ListingAtlas.Program.run environment arguments
