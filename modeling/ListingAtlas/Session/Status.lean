import ListingAtlas.Correlation.Entry
import ListingAtlas.Failure
import ListingAtlas.Log

/-!
What a session is doing or did last, and what a result or a failure makes of it.
-/

namespace ListingAtlas.Session

inductive Status where
  | inactive
  | recompiling
  | ready
  | noAssembly
  | compileError
  | unknownCompiler
  | unsupportedCompiler
  | failed
deriving DecidableEq, Repr

def Status.key : Status → String
  | .inactive => "inactive"
  | .recompiling => "recompiling"
  | .ready => "ready"
  | .noAssembly => "no_assembly"
  | .compileError => "compile_error"
  | .unknownCompiler => "unknown_compiler"
  | .unsupportedCompiler => "unsupported_compiler"
  | .failed => "failed"

def Status.text (detail : String) : Status → String
  | .inactive => "Inactive"
  | .recompiling => "Recompiling..."
  | .ready => "Ready"
  | .noAssembly => "No assembly for this file"
  | .compileError => "Compile error"
  | .unknownCompiler => "Unknown compiler: " ++ detail
  | .unsupportedCompiler => "Unsupported compiler: " ++ detail
  | .failed => "Failed: " ++ detail

def Status.message (status : Status) (detail : String) : String :=
  "Assembly Explorer: " ++ status.text detail

/-- The status that a result leads to. -/
def statusWith (correlation : Correlation) : Status :=
  if correlation.isEmpty then .noAssembly else .ready

/-! ### Failures -/

/-- The status and the detail that a failure leads to. -/
def statusAfter (failure : Failure) : Status × String :=
  match failure.classOf with
  | .unknownCompiler program => (.unknownCompiler, program)
  | .unsupportedCompiler program => (.unsupportedCompiler, program)
  | .compilation => (.compileError, failure.message)
  | .correlation => (.failed, failure.message)
  | .unexpected => (.failed, failure.message)

def logger : String := "asm_explorer.driver.session"

def unexpectedRecord (key : String) : LogRecord :=
  ⟨.error, logger, "Unexpected error correlating " ++ key⟩

/-- What is logged of a failure; that of a compiler's family is not. -/
def failureRecords (key : String) (failure : Failure) : List LogRecord :=
  match failure.classOf with
  | .unknownCompiler _ => []
  | .unsupportedCompiler _ => []
  | .compilation =>
      [⟨.warning, logger, "Listing compile failed for " ++ key ++ ": " ++ failure.message⟩]
  | .correlation =>
      [⟨.warning, logger, "Correlation failed for " ++ key ++ ": " ++ failure.message⟩]
  | .unexpected => [unexpectedRecord key]

/-- Of a failure without a text only that it is unexpected can be logged. -/
def wordlessRecords (key : String) (isExpected : Bool) : List LogRecord :=
  if isExpected then [] else [unexpectedRecord key]

end ListingAtlas.Session
