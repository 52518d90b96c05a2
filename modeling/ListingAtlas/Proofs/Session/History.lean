import ListingAtlas.Session.Operation
import Mathlib.Data.List.Induction

/-!
Histories of a session. A history is made of occurrences: calls from outside, turns of whatever
stands in the queue, and time. Nothing is said here about their order: any item of the queue can have
its turn and any wait can end, so that every schedule is among them. A history keeps the calls that
were made and who was heard when.
-/

namespace ListingAtlas.Session

variable {World Note Request Inner : Type}

/-! ### Occurrences -/

inductive Occurrence (World Request : Type) where
  | trigger (key : String) (source : Path) (request : Request)
  | cancel (key : String)
  | forget (key : String)
  /-- A call to close that begins at once. -/
  | close
  /-- A call to close that waits in the queue for its turn. -/
  | queueClose
  /-- What stands at a place of the queue goes on. -/
  | turn (position : Nat)
  /-- A task that sleeps becomes ready, due or not. -/
  | wake (position : Nat)
  | tick
  /-- The world changes, and not by a correlator. -/
  | outside (world : World)

namespace State

def turnAt (behaviour : Behaviour World Note Request Inner)
    (state : State World Note Request Inner) (position : Nat) : State World Note Request Inner :=
  match state.ready[position]? with
  | none => state
  | some (.task task wake) =>
      runTask behaviour { state with ready := state.ready.eraseIdx position } task wake
  | some .closing => beginClosing { state with ready := state.ready.eraseIdx position }

theorem turnAt_zero (behaviour : Behaviour World Note Request Inner)
    (state : State World Note Request Inner) : state.turnAt behaviour 0 = turn behaviour state := by
  unfold turnAt turn
  cases state.ready with
  | nil => rfl
  | cons item rest => cases item <;> rfl

def wakeAt (state : State World Note Request Inner) (position : Nat) :
    State World Note Request Inner :=
  match state.sleeping[position]? with
  | none => state
  | some sleeper =>
      { state with
        ready := state.ready ++ [.task sleeper.task .elapsed]
        sleeping := state.sleeping.eraseIdx position }

def occur (behaviour : Behaviour World Note Request Inner)
    (state : State World Note Request Inner) :
    Occurrence World Request → State World Note Request Inner
  | .trigger key source request => state.trigger key source request
  | .cancel key => state.cancelKey key
  | .forget key => state.forget key
  | .close => state.beginClosing
  | .queueClose => { state with ready := state.ready ++ [.closing] }
  | .turn position => state.turnAt behaviour position
  | .wake position => state.wakeAt position
  | .tick => state.tick
  | .outside world => { state with world }

theorem occur_task (behaviour : Behaviour World Note Request Inner)
    {state : State World Note Request Inner} {task : Task Request Inner} {wake : Wake}
    {rest : List (Item Request Inner)} (ready : state.ready = .task task wake :: rest) :
    state.occur behaviour (.turn 0) = runTask behaviour { state with ready := rest } task wake := by
  simp only [occur, turnAt, ready, List.getElem?_cons_zero, List.eraseIdx_zero, List.tail_cons]

theorem occur_closing (behaviour : Behaviour World Note Request Inner)
    {state : State World Note Request Inner} {rest : List (Item Request Inner)}
    (ready : state.ready = .closing :: rest) :
    state.occur behaviour (.turn 0) = beginClosing { state with ready := rest } := by
  simp only [occur, turnAt, ready, List.getElem?_cons_zero, List.eraseIdx_zero, List.tail_cons]

end State

/-! ### Calls -/

/-- A call that decides which trigger of a key counts. -/
inductive Call where
  | accepted (key : String) (generation : Int)
  | cancelled (key : String)
  | closed
deriving DecidableEq, Repr

/-- Whether a call puts an end to what was triggered before for a key. -/
def Call.Ends (key : String) : Call → Prop
  | .accepted other _ => other = key
  | .cancelled other => other = key
  | .closed => True

/-- A trigger counts until the next one of its key, until the key is cancelled or all is closed. -/
def IsNewest (key : String) (generation : Int) (calls : List Call) : Prop :=
  ∃ earlier later, calls = earlier ++ .accepted key generation :: later ∧
    ∀ call ∈ later, ¬ call.Ends key

/-- The call that an occurrence is; a call to close that was queued is made when it begins. -/
def callOf? (state : State World Note Request Inner) : Occurrence World Request → Option Call
  | .trigger key source _ =>
      if State.accepts source then some (.accepted key state.registry.nextGeneration) else none
  | .cancel key => some (.cancelled key)
  | .close => some .closed
  | .turn position =>
      match state.ready[position]? with
      | some .closing => some .closed
      | _ => none
  | _ => none

/-! ### Who is heard -/

/-- An event with the trigger on behalf of which it came, and the tick. -/
structure Record (Note : Type) where
  generation : Int
  clock : Nat
  event : Event Note

/-- The task whose turn an occurrence is. -/
def speaker? (state : State World Note Request Inner) :
    Occurrence World Request → Option (Task Request Inner)
  | .turn position =>
      match state.ready[position]? with
      | some (.task task _) => some task
      | _ => none
  | _ => none

def recordsBetween (before after : State World Note Request Inner) :
    Option (Task Request Inner) → List (Record Note)
  | some task =>
      (after.events.drop before.events.length).map fun event =>
        { generation := task.token.generation, clock := before.clock, event }
  | none => []

/-! ### Histories -/

structure History (World Note Request Inner : Type) where
  state : State World Note Request Inner
  calls : List Call
  ledger : List (Record Note)

namespace History

def begin (settings : Settings) (world : World) : History World Note Request Inner :=
  { state := State.initial settings world, calls := [], ledger := [] }

def extend (behaviour : Behaviour World Note Request Inner)
    (history : History World Note Request Inner) (occurrence : Occurrence World Request) :
    History World Note Request Inner :=
  let after := history.state.occur behaviour occurrence
  { state := after
    calls := history.calls ++ (callOf? history.state occurrence).toList
    ledger := history.ledger ++
      recordsBetween history.state after (speaker? history.state occurrence) }

theorem extend_state (behaviour : Behaviour World Note Request Inner)
    (history : History World Note Request Inner) (occurrence : Occurrence World Request) :
    (history.extend behaviour occurrence).state = history.state.occur behaviour occurrence := rfl

/-- The history of a session in which all of these occur in turn. -/
def of (behaviour : Behaviour World Note Request Inner) (settings : Settings) (world : World)
    (occurrences : List (Occurrence World Request)) : History World Note Request Inner :=
  occurrences.foldl (extend behaviour) (begin settings world)

theorem of_append_one (behaviour : Behaviour World Note Request Inner) (settings : Settings)
    (world : World) (occurrences : List (Occurrence World Request))
    (occurrence : Occurrence World Request) :
    of behaviour settings world (occurrences ++ [occurrence]) =
      (of behaviour settings world occurrences).extend behaviour occurrence := by
  simp only [of, List.foldl_append, List.foldl_cons, List.foldl_nil]

/-- What holds at the beginning and survives each occurrence holds throughout. -/
theorem of_induction {behaviour : Behaviour World Note Request Inner} {settings : Settings}
    {world : World} {holds : History World Note Request Inner → Prop}
    (initially : holds (begin settings world))
    (next : ∀ history occurrence, holds history → holds (history.extend behaviour occurrence))
    (occurrences : List (Occurrence World Request)) :
    holds (of behaviour settings world occurrences) := by
  induction occurrences using List.reverseRecOn with
  | nil => exact initially
  | append_singleton past occurrence ih =>
      rw [of_append_one]
      exact next _ _ ih

end History

end ListingAtlas.Session
