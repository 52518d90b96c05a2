import ListingAtlas.Session.Turn
import ListingAtlas.SourceFile

/-!
What can be done to a session from outside. Nothing but the passing of time and closing moves tasks.
-/

namespace ListingAtlas.Session

variable {World Note Request Inner : Type}

namespace State

def ignoredRecord (source : Path) : LogRecord :=
  ⟨.debug, logger, "Ignoring trigger for unsupported source " ++ source.toString⟩

/-- Schedule a correlation in place of any other of its key. -/
def schedule (state : State World Note Request Inner) (key : String) (request : Request) :
    State World Note Request Inner :=
  let state := state.supersede key
  let token := Token.issue key state.registry.nextGeneration
  { state with
    ready := state.ready ++ [.task { token, request, stage := .scheduled } .elapsed]
    registry := { state.registry with
      tokens := state.registry.tokens.insert key token
      tasks := state.registry.tasks.insert key token.generation
      nextGeneration := state.registry.nextGeneration + 1 } }

def accepts (source : Path) : Bool :=
  SourceFile.isSupported source

/-- A trigger for a source that is not supported is ignored. -/
def trigger (state : State World Note Request Inner) (key : String) (source : Path)
    (request : Request) : State World Note Request Inner :=
  if accepts source then state.schedule key request else state.log [ignoredRecord source]

/-- Let go of the newest task of a key; it runs on. -/
def forget (state : State World Note Request Inner) (key : String) :
    State World Note Request Inner :=
  { state with registry := { state.registry with tasks := state.registry.tasks.erase key } }

def isDue (clock : Nat) (sleeper : Sleeper Request Inner) : Bool :=
  match sleeper.due with
  | some due => due ≤ clock
  | none => false

/-- One tick passes, and those whose time has come are ready. -/
def tick (state : State World Note Request Inner) : State World Note Request Inner :=
  let clock := state.clock + 1
  let (woken, asleep) := state.sleeping.partition (isDue clock)
  { state with
    clock
    ready := state.ready ++ woken.map fun sleeper => .task sleeper.task .elapsed
    sleeping := asleep }

/-- Let everything run until it waits, and again after each tick. -/
def advance (correlator : Correlator World Note Request Inner) :
    Nat → State World Note Request Inner → State World Note Request Inner
  | 0, state => state.settle correlator
  | ticks + 1, state => advance correlator ticks (state.settle correlator).tick

def close (correlator : Correlator World Note Request Inner)
    (state : State World Note Request Inner) : State World Note Request Inner :=
  settle correlator { state with ready := state.ready ++ [.closing] }

/-- The tasks that have not ended, oldest first. -/
def unfinished (state : State World Note Request Inner) : List Int :=
  let queued := state.ready.filterMap fun
    | .task task _ => some task.token.generation
    | .closing => none
  let asleep := state.sleeping.map fun sleeper => sleeper.task.token.generation
  (queued ++ asleep).mergeSort

/-- Stop every task that has not ended. -/
def stop (correlator : Correlator World Note Request Inner)
    (state : State World Note Request Inner) : State World Note Request Inner :=
  (state.unfinished.foldl cancelTask state).settle correlator

end State

/-! ### Scripts -/

inductive Operation (Request : Type) where
  | trigger (key : String) (source : Path) (request : Request)
  | cancel (key : String)
  | forget (key : String)
  | close
  | advance (ticks : Nat)

def perform (correlator : Correlator World Note Request Inner)
    (state : State World Note Request Inner) :
    Operation Request → State World Note Request Inner
  | .trigger key source request => state.trigger key source request
  | .cancel key => state.cancelKey key
  | .forget key => state.forget key
  | .close => state.close correlator
  | .advance ticks => state.advance correlator ticks

def performAll (correlator : Correlator World Note Request Inner)
    (state : State World Note Request Inner) (script : List (Operation Request)) :
    State World Note Request Inner :=
  script.foldl (perform correlator) state

end ListingAtlas.Session
