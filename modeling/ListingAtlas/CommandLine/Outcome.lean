import ListingAtlas.Compile.Process

/-!
How a run of the command line ends, and what it leaves: the files, what it printed, and its status.
-/

namespace ListingAtlas.CommandLine

open Compile (Site)

/-- Why a run does not succeed: for a reason that it tells, or by a failure that it lets pass. -/
inductive Fault where
  | told (lines : List String) (text : String)
  | untold (failure : Failure)
deriving DecidableEq, Repr

namespace Fault

/-- A reason without anything to read before it. -/
def because (text : String) : Fault :=
  .told [] text

/-- Failures of compiling and of correlating are told, behind what the compiler left to read. -/
def ofFailure (failure : Failure) : Fault :=
  match failure.classOf with
  | .unexpected => .untold failure
  | _ =>
      let output := failure.compilerOutput
      .told (if output.isEmpty then [] else [output]) failure.message

def lines : Fault → List String
  | .told lines text => lines ++ ["Error: " ++ text]
  | .untold _ => []

end Fault

/-- A part of a run: the files behind it, the lines that it printed, and what came of it. -/
structure Step (Result : Type) where
  site : Site
  lines : List String
  result : Except Fault Result

namespace Step

variable {First Second : Type}

def done (site : Site) (result : First) : Step First :=
  { site, lines := [], result := .ok result }

def failed (site : Site) (fault : Fault) : Step First :=
  { site, lines := [], result := .error fault }

/-- A part that changes nothing and prints nothing. -/
def check (site : Site) (result : Except Fault First) : Step First :=
  { site, lines := [], result }

def print (site : Site) (line : String) : Step Unit :=
  { site, lines := [line], result := .ok () }

/-- A part, and the next one unless it failed. -/
def andThen (step : Step First) (next : Site → First → Step Second) : Step Second :=
  match step.result with
  | .error fault => { site := step.site, lines := step.lines, result := .error fault }
  | .ok result =>
      let following := next step.site result
      { following with lines := step.lines ++ following.lines }

end Step

inductive Ending where
  | exited (status : Nat)
  | raised (failure : Failure)
deriving DecidableEq, Repr

structure Outcome where
  site : Site
  output : String
  errors : String
  ending : Ending

/-- Lines as they are printed. -/
def printed (lines : List String) : String :=
  String.join (lines.map fun line => line ++ "\n")

def Step.outcome (step : Step Unit) : Outcome :=
  { site := step.site
    output := ""
    errors := printed (step.lines ++
      match step.result with
      | .ok _ => []
      | .error fault => fault.lines)
    ending := match step.result with
      | .ok _ => .exited 0
      | .error (.told ..) => .exited 1
      | .error (.untold failure) => .raised failure }

end ListingAtlas.CommandLine
