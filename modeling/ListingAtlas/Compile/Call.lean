import ListingAtlas.Compile.Watch

/-!
A call that runs a compiler, moment by moment, from when the compiler has started or is known not to
start. While the call waits, ticks pass; it gets turns, in which it learns of what has become of the
compiler; and it may be cancelled. No tick passes before it has got its turn. A compiler that the
call kills is gone some time later, and the call waits for that too.
-/

namespace ListingAtlas.Compile

namespace Call

inductive Ending where
  | returned (output : String)
  | failed (failure : Failure)
  | cancelled
deriving DecidableEq, Repr

def Ending.ofOutcome : Except Failure String → Ending
  | .ok output => .returned output
  | .error failure => .failed failure

inductive Stage where
  | waiting (watch : Watch)
  /-- For the end of the process that it has killed, to end so itself. -/
  | reaping (ending : Ending)
  | ended (ending : Ending)
deriving DecidableEq, Repr

end Call

structure Call where
  site : Site
  /-- The ticks since the start. -/
  clock : Nat
  stage : Call.Stage

inductive Moment where
  | turn
  | tick
  | cancelled
  /-- The process, if it was killed, is gone. -/
  | reaped
deriving DecidableEq, Repr

namespace Call

def begin (site : Site) (program : String) (arguments : List String) (directory : String)
    (limit : Option Limit) : Call :=
  match startWatch site program arguments directory limit with
  | (site, .error failure) => { site, clock := 0, stage := .ended (.failed failure) }
  | (site, .ok watch) => { site, clock := 0, stage := .waiting watch }

/-- Whether a wait of some ticks is over; without them it is endless. -/
def isOver (ticks : Option Nat) (clock : Nat) : Bool :=
  match ticks with
  | some ticks => ticks ≤ clock
  | none => false

def kill (call : Call) (process : Process) (ending : Ending) : Call :=
  { call with site := call.site.kill process, stage := .reaping ending }

/-- The compiler has ended, or it has reached its limit and is killed; else the call waits on. -/
def turn (call : Call) : Call :=
  match call.stage with
  | .waiting watch =>
      if isOver watch.ticks call.clock then
        match watch.verdict with
        | .expires failure => call.kill watch.process (.failed failure)
        | .ends =>
            let (site, outcome) := watch.conclude call.site
            { call with site, stage := .ended (.ofOutcome outcome) }
      else call
  | _ => call

def tick (call : Call) : Call :=
  let call := call.turn
  { call with clock := call.clock + 1 }

/-- A call that waits for the compiler kills it; one that has killed it waits no longer. -/
def cancel (call : Call) : Call :=
  match call.stage with
  | .waiting watch => call.kill watch.process .cancelled
  | .reaping _ => { call with stage := .ended .cancelled }
  | .ended _ => call

def reap (call : Call) : Call :=
  match call.stage with
  | .reaping ending => { call with stage := .ended ending }
  | _ => call

def pass (call : Call) : Moment → Call
  | .turn => call.turn
  | .tick => call.tick
  | .cancelled => call.cancel
  | .reaped => call.reap

def after (call : Call) (moments : List Moment) : Call :=
  moments.foldl pass call

end Call

end ListingAtlas.Compile
