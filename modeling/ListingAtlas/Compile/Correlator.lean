import ListingAtlas.Command.Compiler
import ListingAtlas.Compile.Generation
import ListingAtlas.Correlation.Assembly

/-!
Correlating a source by compiling it: only compilers whose listings can be read are run.
-/

namespace ListingAtlas.Compile

/-- A command whose program writes listings that can be read. -/
def checkFamily (command : List String) : Except Failure Unit :=
  let program := command.headD ""
  match Command.detectCompiler program with
  | .gcc => .error (.unsupportedCompiler program)
  | .unknown => .error (.unknownCompiler program)
  | .msvc => .ok ()

def beginCorrelation (site : Site) (request : Request) : Begun :=
  match checkFamily request.command with
  | .error failure => ⟨site, [], .error failure⟩
  | .ok _ => begin site request

/-- The correlation of a generated listing with the text that was compiled. -/
def correlateGenerated (environment : Environment) (request : Request) (generated : Generated) :
    Except Failure Correlation := do
  let palette ← loadPalette environment
  correlate Listing.Msvc.dialect (Presentation.configured environment palette) generated.text
    generated.target (request.text.toString?.getD "") request.source.name

def concludeCorrelation (environment : Environment) (request : Request) (pending : Pending)
    (site : Site) : Site × Except Failure Correlation :=
  let (site, outcome) := pending.conclude site
  (site, outcome.bind (correlateGenerated environment request))

/-- Compile and correlate undisturbed. -/
def correlateRequest (environment : Environment) (site : Site) (request : Request) :
    Site × List LogRecord × Except Failure Correlation :=
  let begun := beginCorrelation site request
  match begun.outcome with
  | .error failure => (begun.site, begun.logs, .error failure)
  | .ok pending =>
      let (site, outcome) := concludeCorrelation environment request pending begun.site
      (site, begun.logs, outcome)

end ListingAtlas.Compile
