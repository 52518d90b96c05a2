import ListingAtlas.Compile.Process

/-!
Watching a compiler: it is started, waited for up to a limit of time, and killed if it takes longer
or if nobody waits any more.
-/

namespace ListingAtlas.Compile

open Number (Binary64)

/-! ### Limits -/

/-- How long a compiler may take. -/
inductive Limit where
  | seconds (value : Binary64)
  /-- So many whole seconds, or so many less than none, that they are not measured. -/
  | immeasurable (negative : Bool)
  /-- A limit that is given, and yet is no time. -/
  | void
deriving DecidableEq, Repr

def Limit.ofInt (seconds : Int) : Limit :=
  match Number.ofInt seconds with
  | .infinite negative => .immeasurable negative
  | value => .seconds value

/-- The time at which a limit is reached, or why a wait with this limit cannot begin. -/
def Limit.bound : Limit → Except Failure Binary64
  | .seconds value => .ok value
  | .immeasurable true => .ok (.infinite true)
  | .immeasurable false => .error .immeasurableTime
  | .void => .error .voidLimit

/-- What a process that takes longer fails with; only a limit that is measured can be told. -/
def Limit.expiry : Limit → Failure
  | .seconds value => .compilerTimedOut value
  | .immeasurable _ => .immeasurableTime
  | .void => .voidLimit

/-! ### Watching a process -/

/-- What the wait for a process ends with. -/
inductive Verdict where
  | ends
  | expires (failure : Failure)
deriving DecidableEq, Repr

/-- A process, how the wait for it ends, and after how many ticks; without them it is endless. -/
structure Watch where
  process : Process
  verdict : Verdict
  ticks : Option Nat
deriving DecidableEq, Repr

/-- A limit of no time or less always expires; else it does if the process would end later. -/
def foresee (duration : Option Span) (limit : Option Limit) :
    Except Failure (Verdict × Option Nat) :=
  match limit, duration with
  | none, none => .ok (.ends, none)
  | none, some (.ticks ticks) => .ok (.ends, some ticks)
  | none, some .immeasurable => .error .immeasurableTime
  | some limit, duration => do
      let bound ← limit.bound
      if bound.isNonpositive then return (.expires limit.expiry, some 0)
      match duration with
      | none => return (.expires limit.expiry, bound.ceiling?)
      | some .immeasurable => throw .immeasurableTime
      | some (.ticks ticks) =>
          if bound.exceededBy ticks then return (.expires limit.expiry, bound.ceiling?)
          else return (.ends, some ticks)

def logger : String := "asm_explorer.driver.runner"

def startRecord (program : String) (arguments : List String) (directory : String) : LogRecord :=
  { level := .info
    logger
    message := "Running " ++ program ++ " with " ++ toString arguments.length ++
      " arguments in " ++ directory }

/-- Watch a process that has started. -/
def Process.watch (process : Process) (limit : Option Limit) : Except Failure Watch :=
  (foresee process.script.duration limit).map fun (verdict, ticks) => { process, verdict, ticks }

/-- Start a process and watch it. If the wait for it cannot begin, it is left to itself. -/
def startWatch (site : Site) (program : String) (arguments : List String) (directory : String)
    (limit : Option Limit) : Site × Except Failure Watch :=
  match site.start program arguments directory with
  | (site, .error failure) => (site, .error failure)
  | (site, .ok process) => (site, process.watch limit)

/-- The wait is over: the output of the process, or why there is none. -/
def Watch.conclude (watch : Watch) (site : Site) : Site × Except Failure String :=
  match watch.verdict with
  | .expires failure => (site.kill watch.process, .error failure)
  | .ends =>
      match site.finish watch.process with
      | .error failure => (site, .error failure)
      | .ok site => (site, watch.process.script.outcome)

/-- Start a compiler and wait for it undisturbed. -/
def runCompiler (site : Site) (program : String) (arguments : List String) (directory : String)
    (limit : Option Limit) : Site × Except Failure String :=
  match startWatch site program arguments directory limit with
  | (site, .error failure) => (site, .error failure)
  | (site, .ok watch) => watch.conclude site

end ListingAtlas.Compile
