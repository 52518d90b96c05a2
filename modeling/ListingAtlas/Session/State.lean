import ListingAtlas.Path
import ListingAtlas.Session.Correlator
import ListingAtlas.Session.Status
import ListingAtlas.Span
import ListingAtlas.Table

/-!
The state of a session. Every accepted trigger is a task, known by its generation. A task that can
go on stands in the queue of those that are ready, first come, first served; one that waits sleeps
until its tick or for good; one that has ended has an outcome.
-/

namespace ListingAtlas.Session

/-! ### Tasks -/

inductive Stage (State : Type) where
  | scheduled
  | debouncing
  | correlating (state : State)

structure Task (Request State : Type) where
  token : Token
  request : Request
  stage : Stage State

inductive Outcome where
  | cancelled
  | nothing
  | delivered (correlation : Correlation)
  | failed (failure : Failure)
  /-- The result was kept, but a call-back that was told of it did not return. -/
  | interrupted (correlation : Correlation) (escape : Escape)
deriving DecidableEq, Repr

/-- The result that was kept on behalf of a task. -/
def Outcome.kept? : Outcome → Option Correlation
  | .delivered correlation => some correlation
  | .interrupted correlation _ => some correlation
  | _ => none

def Escape.outcome : Escape → Outcome
  | .failed failure => .failed failure
  | .cancelled => .cancelled

structure Sleeper (Request State : Type) where
  task : Task Request State
  due : Option Nat

structure Finished where
  token : Token
  outcome : Outcome
deriving DecidableEq, Repr

/-- What stands in the queue: a task with the reason why it goes on, or a call to close. -/
inductive Item (Request State : Type) where
  | task (task : Task Request State) (wake : Wake)
  | closing

/-! ### Registry -/

/-- What the session keeps by key: the newest token, the newest task, the last result. -/
structure Registry where
  tokens : Table String Token
  tasks : Table String Int
  results : Table String Correlation
  nextGeneration : Int

def Registry.initial : Registry :=
  { tokens := Table.empty, tasks := Table.empty, results := Table.empty, nextGeneration := 1 }

/-- Whether a token is the newest of its key and not cancelled. -/
def Registry.isCurrent (registry : Registry) (token : Token) : Bool :=
  match registry.tokens.get? token.key with
  | some newest => newest.generation == token.generation && !newest.cancelled
  | none => false

/-! ### Session -/

/-- What is said, by the session or by a correlator. -/
inductive Event (Note : Type) where
  | status (status : Status) (message : String)
  | result (key : String) (correlation : Correlation)
  | note (note : Note)

/-- How a session is set up. A call-back that is given learns of every status or every result. It
may let something escape, depending on what it is told and on how much was said before. -/
structure Settings where
  /-- The time between a trigger and its correlation; without it the correlation never comes. -/
  debounce : Option Span
  onStatus : Option (Nat → Status → String → Option Escape)
  onResult : Option (Nat → String → Correlation → Option Escape)

namespace Settings

variable {Note : Type}

/-- Call-backs that only record what they are told, each of them given or not. -/
def recording (debounce : Option Span) (statuses results : Bool) : Settings :=
  { debounce
    onStatus := if statuses then some fun _ _ _ => none else none
    onResult := if results then some fun _ _ _ => none else none }

/-- Whether anybody is told of an event. -/
def hears (settings : Settings) : Event Note → Bool
  | .status .. => settings.onStatus.isSome
  | .result .. => settings.onResult.isSome
  | .note _ => true

/-- What escapes when somebody is told of an event, after so many others. -/
def raised? (settings : Settings) (said : Nat) : Event Note → Option Escape
  | .status status message => settings.onStatus.bind fun call => call said status message
  | .result key correlation => settings.onResult.bind fun call => call said key correlation
  | .note _ => none

end Settings

structure State (World Note Request Inner : Type) where
  settings : Settings
  world : World
  clock : Nat
  registry : Registry
  status : Status
  detail : String
  ready : List (Item Request Inner)
  sleeping : List (Sleeper Request Inner)
  finished : List Finished
  /-- For each call to close that has begun, the tasks that it waits for. -/
  closings : List (List Int)
  events : List (Event Note)
  logs : List LogRecord

variable {World Note Request Inner : Type}

namespace State

def initial (settings : Settings) (world : World) : State World Note Request Inner :=
  { settings, world
    clock := 0
    registry := Registry.initial
    status := .inactive
    detail := ""
    ready := []
    sleeping := []
    finished := []
    closings := []
    events := []
    logs := [] }

def message (state : State World Note Request Inner) : String :=
  state.status.message state.detail

def outcome? (state : State World Note Request Inner) (generation : Int) : Option Outcome :=
  (state.finished.find? fun finished => finished.token.generation == generation).map
    Finished.outcome

/-- A call to close has completed when each task that it waits for has ended. -/
def hasClosed (state : State World Note Request Inner) (awaited : List Int) : Bool :=
  awaited.all fun generation => (state.outcome? generation).isSome

def log (state : State World Note Request Inner) (records : List LogRecord) :
    State World Note Request Inner :=
  { state with logs := state.logs ++ records }

def say (state : State World Note Request Inner) (event : Event Note) :
    State World Note Request Inner :=
  { state with events := state.events ++ [event] }

def setStatus (state : State World Note Request Inner) (status : Status) (detail : String) :
    State World Note Request Inner :=
  { state with status, detail }.say (.status status (status.message detail))

/-- What escapes when an event is the next to be told. -/
def raised? (state : State World Note Request Inner) (event : Event Note) : Option Escape :=
  state.settings.raised? state.events.length event

/-- The events that somebody was told of. -/
def heard (state : State World Note Request Inner) : List (Event Note) :=
  state.events.filter state.settings.hears

end State

end ListingAtlas.Session
