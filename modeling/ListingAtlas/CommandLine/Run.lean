import ListingAtlas.Command.Words
import ListingAtlas.CommandLine.Invocation
import ListingAtlas.CommandLine.Outcome
import ListingAtlas.Compile.Correlator
import ListingAtlas.OutputName
import ListingAtlas.View

/-!
A run of the command line: what can be checked is checked first, then the listing is read or
generated and correlated, and last the views are saved, none of them over a file that is there.
-/

namespace ListingAtlas.CommandLine

open Compile (Limit Site)

/-- The value of a switch, unless it is empty. -/
def given? (value : Option String) : Option String :=
  value.filter fun text => !text.isEmpty

/-! ### Before the listing -/

/-- All that a run needs beside the listing. -/
structure Preparation where
  source : Path
  text : String
  outputDirectory : Path
  views : List View
  dialect : Listing.Dialect
  presentation : Presentation

def raise {Result : Type} (outcome : Except Failure Result) : Except Fault Result :=
  outcome.mapError .untold

def tell {Result : Type} (outcome : Except Failure Result) : Except Fault Result :=
  outcome.mapError fun failure => .because failure.message

/-- Output goes next to the source unless another directory is given. -/
def findOutputDirectory (workspace : Workspace) (source : Path) (options : Options) :
    Except Fault Path := do
  let directory ← match given? options.outputDirectory with
    | some directory => raise (workspace.resolve (Path.parse directory))
    | none => (raise (workspace.resolve source)).map Path.parent
  if ← raise (workspace.isDirectory directory) then return directory
  else .error (.because ("Output directory does not exist: " ++ directory.toString))

/-- The views of a list of keys between commas; all of them if there is no list. -/
def findViews (formats : Option String) : Except Fault (List View) :=
  match given? formats with
  | none => .ok View.all
  | some formats =>
      (commaSeparated formats.toList).mapM fun key =>
        match View.find? (String.ofList key) with
        | some view => .ok view
        | none =>
            .error (.because ("Unknown format '" ++ String.ofList key ++
              "'. Available formats: " ++ View.availableKeys))

/-- The dialect of a key that the arguments were checked for. -/
def findDialect (key : Value) : Except Fault Listing.Dialect :=
  match key with
  | .text key => tell (Listing.findDialect key)
  | .void => .error (.untold .voidDialect)

def prepare (environment : Environment) (workspace : Workspace) (invocation : Invocation) :
    Except Fault Preparation := do
  let source := Path.parse invocation.source
  if !(← raise (workspace.isFile source)) then
    .error (.because ("File not found: " ++ source.toString))
  let outputDirectory ← findOutputDirectory workspace source invocation.options
  let views ← findViews invocation.options.formats
  let dialect ← findDialect invocation.options.dialect
  let palette ← tell (loadPalette environment)
  let text ← raise (workspace.readSource source)
  return { source, text, outputDirectory, views, dialect
           presentation := Presentation.configured environment palette }

/-! ### The listing -/

/-- A listing, and the path by which it calls the source. -/
structure Material where
  listing : String
  target : String

def readMaterial (site : Site) (preparation : Preparation) (listing : String) : Step Material :=
  (Step.print site ("Reading listing " ++ listing ++ "...")).andThen fun site _ =>
    Step.check site
      (((site.workspace.readListing (Path.parse listing)).mapError Fault.ofFailure).map fun text =>
        { listing := text, target := preparation.source.toString })

def logLine (record : LogRecord) : String :=
  record.level.name ++ " " ++ record.logger ++ ": " ++ record.message

/-- Warnings and errors are always shown, what else happens only on demand. -/
def isShown (verbose : Bool) (record : LogRecord) : Bool :=
  match record.level with
  | .debug => false
  | .info => verbose
  | .warning => true
  | .error => true

def requestFor (site : Site) (preparation : Preparation) (options : Options)
    (limit : Option Limit) (command : List String) : Compile.Request :=
  let directory := match given? options.workingDirectory with
    | some directory => Path.parse directory
    | none => site.workspace.workingDirectory
  { command
    source := preparation.source
    text := Text.EditorText.ofString preparation.text
    directory := directory.toString
    buildDirectory := ((given? options.buildDirectory).map Path.parse).getD directory
    limit }

/-- Run the compiler and say where its listing is. -/
def compileMaterial (site : Site) (preparation : Preparation) (options : Options)
    (limit : Option Limit) (command : List String) : Step Material :=
  let request := requestFor site preparation options limit command
  (Step.print site ("Compiling " ++ preparation.source.name ++ " with listing output...")).andThen
    fun site _ =>
      let (site, logs, generated) := Compile.generate site request
      let shown : Step Compile.Generated :=
        { site
          lines := (logs.filter (isShown options.verbose)).map logLine
          result := generated.mapError Fault.ofFailure }
      shown.andThen fun site generated =>
        { site
          lines := ["  Listing: " ++ generated.listing.toString]
          result := .ok { listing := generated.text, target := generated.target } }

/-- The listing given, or a new one; only compilers whose listings can be read are run. -/
def findMaterial (site : Site) (preparation : Preparation) (options : Options)
    (limit : Option Limit) : Step Material :=
  match given? options.listing, options.command with
  | some listing, _ => readMaterial site preparation listing
  | none, none => Step.failed site (.untold .missingCommand)
  | none, some .void => Step.failed site (.untold .voidCommand)
  | none, some (.text text) =>
      let command := Command.splitCommand text
      match Compile.checkFamily command with
      | .error failure => Step.failed site (Fault.ofFailure failure)
      | .ok _ => compileMaterial site preparation options limit command

/-! ### Correlation -/

def correlateMaterial (site : Site) (preparation : Preparation) (options : Options)
    (material : Material) : Step Correlation :=
  let target := (given? options.target).getD material.target
  (Step.print site ("Correlating against " ++ target ++ "...")).andThen fun site _ =>
    Step.check site
      ((correlate preparation.dialect preparation.presentation material.listing target
        preparation.text preparation.source.name).mapError Fault.ofFailure)

def correlationLine (correlation : Correlation) : String :=
  if correlation.isEmpty then "  " ++ noListingMessage
  else "  Correlated " ++ toString correlation.entries.length ++ " source lines"

/-! ### Views -/

/-- Save a view under a name that is free, and tell the path. -/
def saveView (workspace : Workspace) (preparation : Preparation) (correlation : Correlation)
    (view : View) : Except Failure (Workspace × Path) := do
  let path ← OutputName.choose workspace preparation.outputDirectory
    { stem := preparation.source.stem, suffix := view.suffix }
  let workspace ← workspace.writeBytes path (Text.encodeUtf8 (view.content correlation))
  return (workspace, path)

def saveStep (preparation : Preparation) (correlation : Correlation) (site : Site) (view : View) :
    Step Unit :=
  (Step.print site ("  Running " ++ view.name ++ " formatter...")).andThen fun site _ =>
    match saveView site.workspace preparation correlation view with
    | .error failure => Step.failed site (.untold failure)
    | .ok (workspace, path) => Step.print { site with workspace } ("  Saved: " ++ path.name)

def saveAll (preparation : Preparation) (correlation : Correlation) :
    Site → List View → Step Unit
  | site, [] => Step.done site ()
  | site, view :: views =>
      (saveStep preparation correlation site view).andThen fun site _ =>
        saveAll preparation correlation site views

def summary (preparation : Preparation) : String :=
  "Done! Saved " ++ toString preparation.views.length ++ " file(s) to " ++
    preparation.outputDirectory.toString

/-! ### Runs -/

def runPrepared (site : Site) (preparation : Preparation) (options : Options)
    (limit : Option Limit) : Step Unit :=
  (findMaterial site preparation options limit).andThen fun site material =>
    (correlateMaterial site preparation options material).andThen fun site correlation =>
      (Step.print site (correlationLine correlation)).andThen fun site _ =>
        (saveAll preparation correlation site preparation.views).andThen fun site _ =>
          { site, lines := ["", summary preparation], result := .ok () }

/-- The limit that is given, else the configured one. -/
def Options.limit (options : Options) (configured : Option Number.Binary64) : Option Limit :=
  (options.timeout.map Timeout.limit).or (configured.map .seconds)

def runInvocation (environment : Environment) (configured : Option Number.Binary64) (site : Site)
    (invocation : Invocation) : Step Unit :=
  match prepare environment site.workspace invocation with
  | .error fault => Step.failed site fault
  | .ok preparation =>
      let options := invocation.options
      runPrepared site preparation options (options.limit configured)

end ListingAtlas.CommandLine
