import ListingAtlas.Session.State

/-!
How tasks go on. A turn takes the first item of the queue and carries it to its next wait or its
end. Turns follow each other until nothing is ready.
-/

namespace ListingAtlas.Session

variable {World Note Request Inner : Type}

/-! ### Cancelling tasks -/

/-- The item with the task of a generation, if it is that, asked to stop. -/
def Item.cancelled (generation : Int) : Item Request Inner → Item Request Inner
  | .task member wake =>
      .task member (if member.token.generation == generation then .cancelled else wake)
  | .closing => .closing

namespace State

/-- Ask a task to stop. One that is ready learns of it in its turn, one that sleeps becomes ready
for it, and one that has ended does not mind. -/
def cancelTask (state : State World Note Request Inner) (generation : Int) :
    State World Note Request Inner :=
  let (woken, asleep) :=
    state.sleeping.partition fun sleeper => sleeper.task.token.generation == generation
  { state with
    ready := state.ready.map (Item.cancelled generation) ++
      woken.map fun sleeper => .task sleeper.task .cancelled
    sleeping := asleep }

/-- Cancel the newest token and the newest task of a key. -/
def supersede (state : State World Note Request Inner) (key : String) :
    State World Note Request Inner :=
  let registry := match state.registry.tokens.get? key with
    | some token =>
        { state.registry with tokens := state.registry.tokens.insert key token.cancel }
    | none => state.registry
  let state := { state with registry }
  match state.registry.tasks.get? key with
  | some generation => state.cancelTask generation
  | none => state

/-- Supersede a key and forget it. -/
def cancelKey (state : State World Note Request Inner) (key : String) :
    State World Note Request Inner :=
  let state := state.supersede key
  { state with
    registry := { state.registry with
      tokens := state.registry.tokens.erase key
      tasks := state.registry.tasks.erase key } }

/-! ### Ending tasks -/

def finish (state : State World Note Request Inner) (token : Token) (outcome : Outcome) :
    State World Note Request Inner :=
  { state with finished := state.finished ++ [⟨token, outcome⟩] }

/-- Let a task wait: for no time at the end of the queue, else asleep. -/
def wait (state : State World Note Request Inner) (task : Task Request Inner)
    (ticks : Option Nat) : State World Note Request Inner :=
  match ticks with
  | some 0 => { state with ready := state.ready ++ [.task task .elapsed] }
  | ticks =>
      { state with
        sleeping := state.sleeping ++ [⟨task, ticks.map fun ticks => state.clock + ticks⟩] }

/-- Set a status, tell of it and go on, unless something escapes; then the task ends with that. -/
def tellStatus (state : State World Note Request Inner) (token : Token) (status : Status)
    (detail : String) (interrupted : Escape → Outcome)
    (next : State World Note Request Inner → State World Note Request Inner) :
    State World Note Request Inner :=
  let told := state.setStatus status detail
  match state.raised? (.status status (status.message detail)) with
  | some escape => told.finish token (interrupted escape)
  | none => next told

/-- A failure is logged, but only that of a current task shows in the status. -/
def fail (state : State World Note Request Inner) (token : Token) (failure : Failure) :
    State World Note Request Inner :=
  let state := state.log (failureRecords token.key failure)
  if state.registry.isCurrent token then
    state.tellStatus token (statusAfter failure).1 (statusAfter failure).2 Escape.outcome
      fun state => state.finish token .nothing
  else state.finish token .nothing

def discardRecord (token : Token) : LogRecord :=
  ⟨.info, logger, "Discarding stale result for " ++ token.key ++ " (generation " ++
    toString token.generation ++ ")"⟩

/-- Tell of a result that is kept. -/
def announce (state : State World Note Request Inner) (token : Token)
    (correlation : Correlation) : State World Note Request Inner :=
  let event := .result token.key correlation
  (state.say event).finish token <|
    match state.raised? event with
    | some escape => .interrupted correlation escape
    | none => .delivered correlation

/-- A result is kept and told if its task is current, and dropped otherwise. -/
def deliver (state : State World Note Request Inner) (token : Token)
    (correlation : Correlation) : State World Note Request Inner :=
  if state.registry.isCurrent token then
    let results := state.registry.results.insert token.key correlation
    let state := { state with registry := { state.registry with results } }
    state.tellStatus token (statusWith correlation) "" (.interrupted correlation)
      fun state => state.announce token correlation
  else (state.log [discardRecord token]).finish token .nothing

/-! ### One turn -/

/-- What a stretch of a correlator leads to. -/
def advanceBy (state : State World Note Request Inner) (task : Task Request Inner)
    (progress : Progress World Note Inner) : State World Note Request Inner :=
  let state :=
    { state with
      world := progress.world
      events := state.events ++ progress.notes.map Event.note
      logs := state.logs ++ progress.logs }
  match progress.move with
  | .wait ticks inner => state.wait { task with stage := .correlating inner } ticks
  | .finish .cancelled => state.finish task.token .cancelled
  | .finish (.failure failure) => state.fail task.token failure
  | .finish (.wordless isExpected escape) =>
      (state.log (wordlessRecords task.token.key isExpected)).finish task.token escape.outcome
  | .finish (.result correlation) => state.deliver task.token correlation

/-- A task waits before its correlation, and ends unheard if that wait cannot begin. -/
def debounce (state : State World Note Request Inner) (task : Task Request Inner) :
    State World Note Request Inner :=
  let waiting := { task with stage := .debouncing }
  match state.settings.debounce with
  | none => state.wait waiting none
  | some (.ticks count) => state.wait waiting (some count)
  | some .immeasurable => state.finish task.token (.failed .immeasurableTime)

def runTask (behaviour : Behaviour World Note Request Inner)
    (state : State World Note Request Inner) (task : Task Request Inner) (wake : Wake) :
    State World Note Request Inner :=
  match task.stage, wake with
  | .correlating inner, wake =>
      state.advanceBy task (behaviour.resume state.world inner wake)
  | _, .cancelled => state.finish task.token .cancelled
  | .scheduled, .elapsed => state.debounce task
  | .debouncing, .elapsed =>
      if state.registry.isCurrent task.token then
        state.tellStatus task.token .recompiling "" Escape.outcome fun state =>
          state.advanceBy task (behaviour.start state.world task.request task.token)
      else state.finish task.token .nothing

/-- Closing cancels every key, and waits for the newest task of each. -/
def beginClosing (state : State World Note Request Inner) : State World Note Request Inner :=
  let awaited := state.registry.tasks.values
  let state := state.registry.tokens.keys.foldl cancelKey state
  { state with closings := state.closings ++ [awaited] }

def turn (behaviour : Behaviour World Note Request Inner)
    (state : State World Note Request Inner) : State World Note Request Inner :=
  match state.ready with
  | [] => state
  | .task task wake :: rest => runTask behaviour { state with ready := rest } task wake
  | .closing :: rest => beginClosing { state with ready := rest }

/-! ### Turns until nothing is ready -/

/-- How many turns a task can take without a wait that lasts. -/
def stageWeight (correlator : Correlator World Note Request Inner) : Stage Inner → Nat
  | .scheduled => correlator.patience + 3
  | .debouncing => correlator.patience + 2
  | .correlating inner => correlator.pauses inner + 1

def itemWeight (correlator : Correlator World Note Request Inner) : Item Request Inner → Nat
  | .task task _ => stageWeight correlator task.stage
  | .closing => 0

def isClosing : Item Request Inner → Bool
  | .closing => true
  | .task _ _ => false

/-- A bound on the turns to come: closing may make every sleeping task ready once more. -/
def workload (correlator : Correlator World Note Request Inner)
    (state : State World Note Request Inner) : Nat :=
  let tasks := state.ready.length + state.sleeping.length
  state.ready.foldr (fun item weight => itemWeight correlator item + weight) 0 +
    state.ready.countP isClosing * (1 + tasks * (correlator.patience + 3))

def turns (behaviour : Behaviour World Note Request Inner) :
    Nat → State World Note Request Inner → State World Note Request Inner
  | 0, state => state
  | bound + 1, state => turns behaviour bound (turn behaviour state)

def settle (correlator : Correlator World Note Request Inner)
    (state : State World Note Request Inner) : State World Note Request Inner :=
  turns correlator.toBehaviour (workload correlator state) state

end State

end ListingAtlas.Session
