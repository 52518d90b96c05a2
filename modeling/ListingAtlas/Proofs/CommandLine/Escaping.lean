import ListingAtlas.CommandLine.Program
import ListingAtlas.Proofs.CommandLine.Arguments
import ListingAtlas.Proofs.CommandLine.Preparing
import ListingAtlas.Proofs.Compile.Breaking
import ListingAtlas.Proofs.Correlation.Ranges
import ListingAtlas.Proofs.Listing.Refusal

/-!
Failures that a run does not tell. A run of a command line that makes sense ends well, or tells why
it does not, unless something goes wrong that none of its parts accounts for; here is what that can
be, in the order in which a run comes to it.
-/

namespace ListingAtlas.CommandLine

open Compile (Limit Site)
open Number (Binary64)

/-! ### Preparing -/

section

variable {environment : Environment} {workspace : Workspace} {source : Path} {options : Options}
  {invocation : Invocation} {failure : Failure}

/-- What escapes before the listing: a source or an output directory with a name that is too long to
be asked for, a null in the directory that is given, or a dialect that is void. -/
inductive Unprepared (workspace : Workspace) (invocation : Invocation) : Failure → Prop
  | source (long : workspace.TooLong (Path.parse invocation.source)) :
      Unprepared workspace invocation
        (.unusablePath .nameTooLong (Path.parse invocation.source).toString)
  | null {directory : String}
      (file : workspace.isFile (Path.parse invocation.source) = .ok true)
      (given : given? invocation.options.outputDirectory = some directory)
      (null : Workspace.holdsNull (Path.parse directory) = true) :
      Unprepared workspace invocation .nullInPath
  | directory {path : Path}
      (file : workspace.isFile (Path.parse invocation.source) = .ok true)
      (resolves : outputPath workspace (Path.parse invocation.source) invocation.options = .ok path)
      (long : workspace.TooLong path) :
      Unprepared workspace invocation (.unusablePath .nameTooLong path.toString)
  | dialect {path : Path} {views : List View}
      (file : workspace.isFile (Path.parse invocation.source) = .ok true)
      (output : findOutputDirectory workspace (Path.parse invocation.source) invocation.options =
        .ok path)
      (found : findViews invocation.options.formats = .ok views)
      (void : invocation.options.dialect = .void) :
      Unprepared workspace invocation .voidDialect

end

/-! ### Finding a listing -/

/-- What escapes while a listing is looked for: neither a listing nor a command that is worth the
name, a null in the path of the listing, or something that breaks while one is generated. -/
inductive Unfound (site : Site) (preparation : Preparation) (options : Options)
    (limit : Option Limit) : Failure → Prop
  | neither (noListing : given? options.listing = none) (noCommand : options.command = none) :
      Unfound site preparation options limit .missingCommand
  | void (noListing : given? options.listing = none) (void : options.command = some .void) :
      Unfound site preparation options limit .voidCommand
  | null {listing : String} (given : given? options.listing = some listing)
      (null : Workspace.holdsNull (Path.parse listing) = true) :
      Unfound site preparation options limit .nullInPath
  | generating {text : String} {failure : Failure} (noListing : given? options.listing = none)
      (given : options.command = some (.text text))
      (family : Compile.checkFamily (Command.splitCommand text) = .ok ())
      (breaks : Compile.Breaks site
        (requestFor site preparation options limit (Command.splitCommand text))
        preparation.text failure) :
      Unfound site preparation options limit failure

theorem compileMaterial_eq (site : Site) (preparation : Preparation) (options : Options)
    (limit : Option Limit) (command : List String) :
    let generated := Compile.generate site (requestFor site preparation options limit command)
    (compileMaterial site preparation options limit command).site = generated.1 ∧
      (compileMaterial site preparation options limit command).result =
        (generated.2.2.mapError Fault.ofFailure).map fun generated =>
          { listing := generated.text, target := generated.target } := by
  unfold compileMaterial
  simp only [Step.andThen, Step.print]
  generalize Compile.generate site _ = generated
  obtain ⟨left, logs, outcome⟩ := generated
  cases outcome <;> exact ⟨rfl, rfl⟩

/-- The listing that is read, and the source that it is read for. -/
def Preparation.reads (preparation : Preparation) (options : Options) (material : Material) :
    Listing.Source :=
  { dialect := preparation.dialect
    target :=
      { path := (given? options.target).getD material.target
        lineCount := (sourceLines preparation.text).length }
    lines := Text.linesAtFeeds material.listing }

/-- What escapes from correlating: a numeral that is too long is the first thing to be refused in
the listing, or nothing in it is refused and the separator is none. -/
inductive Uncorrelated (environment : Environment) (source : Listing.Source) : Failure → Prop
  | numeral {position digits : Nat}
      (first : source.FirstRefusal position (.numeralTooLong digits)) :
      Uncorrelated environment source (.numeralTooLong digits)
  | separator {failure : Failure} (accepted : ∀ position failure, ¬ source.Refuses position failure)
      (unknown : loadLineSeparator environment = .error failure) :
      Uncorrelated environment source failure

section

variable {environment : Environment} {workspace : Workspace} {invocation : Invocation}
  {preparation : Preparation} {options : Options} {material : Material} {failure : Failure}

end

/-! ### Runs -/

/-- What escapes from a run, and where: while it prepares, while it finds a listing or correlates
it, or between two views, at the name of the next one. -/
inductive Escapes (environment : Environment) (configured : Option Binary64) (site : Site)
    (invocation : Invocation) : Failure → Prop
  | preparing {failure : Failure} (unprepared : Unprepared site.workspace invocation failure) :
      Escapes environment configured site invocation failure
  | finding {preparation : Preparation} {failure : Failure}
      (prepares : prepare environment site.workspace invocation = .ok preparation)
      (unfound : Unfound site preparation invocation.options (invocation.options.limit configured)
        failure) :
      Escapes environment configured site invocation failure
  | correlating {preparation : Preparation} {material : Material} {failure : Failure}
      (prepares : prepare environment site.workspace invocation = .ok preparation)
      (finds : (findMaterial site preparation invocation.options
        (invocation.options.limit configured)).result = .ok material)
      (uncorrelated : Uncorrelated environment
        (preparation.reads invocation.options material) failure) :
      Escapes environment configured site invocation failure
  | saving {preparation : Preparation} {material : Material} {correlation : Correlation}
      {found : Site} {directory : Place} {earlier later : List View} {view : View}
      {failure : Failure}
      (prepares : prepare environment site.workspace invocation = .ok preparation)
      (finds : (findMaterial site preparation invocation.options
        (invocation.options.limit configured)).result = .ok material)
      (reaches : (findMaterial site preparation invocation.options
        (invocation.options.limit configured)).site = found)
      (correlates : preparation.correlated invocation.options material = .ok correlation)
      (into : LeadsInto found.workspace preparation.outputDirectory directory)
      (parts : preparation.views = earlier ++ view :: later)
      (done : (saveAll preparation correlation found earlier).result = .ok ())
      (stops : Stops preparation (saveAll preparation correlation found earlier).site.workspace
        directory view failure) :
      Escapes environment configured site invocation failure

section

variable {environment : Environment} {configured : Option Binary64} {site : Site}
  {invocation : Invocation} {failure : Failure} (system : site.host = .system)

include system

end

/-- A run tells why it fails: an error is the last of what it prints, and its status is one. -/
def Outcome.TellsError (outcome : Outcome) : Prop :=
  outcome.ending = .exited 1 ∧
    ∃ lines text, outcome.errors = printed (lines ++ ["Error: " ++ text])

theorem tellsError_of_told {step : Step Unit} {lines : List String} {text : String}
    (fails : step.result = .error (.told lines text)) : step.outcome.TellsError := by
  refine ⟨?_, step.lines ++ lines, text, ?_⟩
  · simp only [Step.outcome, fails]
  · simp only [Step.outcome, fails, Fault.lines, List.append_assoc]

end ListingAtlas.CommandLine
