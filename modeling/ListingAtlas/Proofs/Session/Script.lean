import ListingAtlas.Proofs.Session.History
import ListingAtlas.Proofs.Session.Settling

/-!
Scripts as histories. An operation of a script is a row of occurrences: its call, and then turns of
whatever stands first in the queue until nothing does, after each tick again.
-/

namespace ListingAtlas.Session

variable {World Note Request Inner : Type}

namespace State

/-- The occurrences in which all that is ready runs until it waits. -/
def settling (correlator : Correlator World Note Request Inner)
    (state : State World Note Request Inner) : List (Occurrence World Request) :=
  List.replicate (workload correlator state) (.turn 0)

def passing (correlator : Correlator World Note Request Inner) :
    Nat → State World Note Request Inner → List (Occurrence World Request)
  | 0, state => settling correlator state
  | ticks + 1, state =>
      settling correlator state ++ .tick :: passing correlator ticks (state.settle correlator).tick

def occurrencesOf (correlator : Correlator World Note Request Inner)
    (state : State World Note Request Inner) :
    Operation Request → List (Occurrence World Request)
  | .trigger key source request => [.trigger key source request]
  | .cancel key => [.cancel key]
  | .forget key => [.forget key]
  | .close =>
      .queueClose :: settling correlator { state with ready := state.ready ++ [.closing] }
  | .advance ticks => passing correlator ticks state

def occurrencesOfAll (correlator : Correlator World Note Request Inner) :
    State World Note Request Inner → List (Operation Request) → List (Occurrence World Request)
  | _, [] => []
  | state, operation :: operations =>
      occurrencesOf correlator state operation ++
        occurrencesOfAll correlator (perform correlator state operation) operations

/-! ### They lead where the operations lead -/

theorem foldl_turn (behaviour : Behaviour World Note Request Inner) (count : Nat)
    (state : State World Note Request Inner) :
    (List.replicate count (.turn 0 : Occurrence World Request)).foldl (occur behaviour) state =
      turns behaviour count state := by
  induction count generalizing state with
  | zero => rfl
  | succ count ih =>
      rw [List.replicate_succ, List.foldl_cons, ih]
      simp only [occur, turnAt_zero, turns]

theorem foldl_settling (correlator : Correlator World Note Request Inner)
    (state : State World Note Request Inner) :
    (settling correlator state).foldl (occur correlator.toBehaviour) state =
      state.settle correlator := by
  unfold settling settle
  rw [foldl_turn]

theorem foldl_passing (correlator : Correlator World Note Request Inner) (ticks : Nat)
    (state : State World Note Request Inner) :
    (passing correlator ticks state).foldl (occur correlator.toBehaviour) state =
      state.advance correlator ticks := by
  induction ticks generalizing state with
  | zero => exact foldl_settling correlator state
  | succ ticks ih =>
      rw [passing, List.foldl_append, foldl_settling, List.foldl_cons]
      exact ih _

theorem foldl_occurrencesOf (correlator : Correlator World Note Request Inner)
    (state : State World Note Request Inner) (operation : Operation Request) :
    (occurrencesOf correlator state operation).foldl (occur correlator.toBehaviour) state =
      perform correlator state operation := by
  cases operation with
  | close => exact foldl_settling correlator _
  | advance ticks => exact foldl_passing correlator ticks state
  | _ => simp only [occurrencesOf, List.foldl_cons, List.foldl_nil, occur, perform]

theorem foldl_occurrencesOfAll (correlator : Correlator World Note Request Inner)
    (state : State World Note Request Inner) (script : List (Operation Request)) :
    (occurrencesOfAll correlator state script).foldl (occur correlator.toBehaviour) state =
      performAll correlator state script := by
  induction script generalizing state with
  | nil => rfl
  | cons operation operations ih =>
      rw [occurrencesOfAll, List.foldl_append, foldl_occurrencesOf, ih]
      rfl

end State

namespace History

theorem foldl_extend_state (behaviour : Behaviour World Note Request Inner)
    (history : History World Note Request Inner) (occurrences : List (Occurrence World Request)) :
    (occurrences.foldl (extend behaviour) history).state =
      occurrences.foldl (State.occur behaviour) history.state := by
  induction occurrences generalizing history with
  | nil => rfl
  | cons occurrence occurrences ih =>
      rw [List.foldl_cons, ih, List.foldl_cons]
      rfl

def ofScript (correlator : Correlator World Note Request Inner) (settings : Settings)
    (world : World) (script : List (Operation Request)) : History World Note Request Inner :=
  of correlator.toBehaviour settings world
    (State.occurrencesOfAll correlator (State.initial settings world) script)

theorem ofScript_state (correlator : Correlator World Note Request Inner) (settings : Settings)
    (world : World) (script : List (Operation Request)) :
    (ofScript correlator settings world script).state =
      performAll correlator (State.initial settings world) script := by
  unfold ofScript of
  rw [foldl_extend_state]
  exact State.foldl_occurrencesOfAll correlator _ script

/-! ### Operation by operation -/

variable {correlator : Correlator World Note Request Inner}

def settle (correlator : Correlator World Note Request Inner)
    (history : History World Note Request Inner) : History World Note Request Inner :=
  (State.settling correlator history.state).foldl (extend correlator.toBehaviour) history

def pass (correlator : Correlator World Note Request Inner) :
    Nat → History World Note Request Inner → History World Note Request Inner
  | 0, history => history.settle correlator
  | ticks + 1, history =>
      pass correlator ticks ((history.settle correlator).extend correlator.toBehaviour .tick)

def perform (correlator : Correlator World Note Request Inner)
    (history : History World Note Request Inner) (operation : Operation Request) :
    History World Note Request Inner :=
  (State.occurrencesOf correlator history.state operation).foldl (extend correlator.toBehaviour)
    history

theorem settle_state (history : History World Note Request Inner) :
    (history.settle correlator).state = history.state.settle correlator := by
  unfold settle
  rw [foldl_extend_state, State.foldl_settling]

theorem settle_ready (history : History World Note Request Inner) :
    (history.settle correlator).state.ready = [] := by
  rw [settle_state]
  exact State.settle_ready correlator history.state

theorem perform_state (history : History World Note Request Inner)
    (operation : Operation Request) :
    (history.perform correlator operation).state =
      Session.perform correlator history.state operation := by
  unfold perform
  rw [foldl_extend_state, State.foldl_occurrencesOf]

theorem perform_advance (history : History World Note Request Inner) (ticks : Nat) :
    history.perform correlator (.advance ticks) = history.pass correlator ticks := by
  change (State.passing correlator ticks history.state).foldl _ history = _
  induction ticks generalizing history with
  | zero => rfl
  | succ ticks ih =>
      have ticked : ((history.settle correlator).extend correlator.toBehaviour .tick).state =
          (history.state.settle correlator).tick := by
        rw [← settle_state]
        rfl
      rw [State.passing, List.foldl_append, List.foldl_cons, pass, ← ih, ticked]
      rfl

theorem perform_trigger (history : History World Note Request Inner) (key : String)
    (source : Path) (request : Request) :
    history.perform correlator (.trigger key source request) =
      history.extend correlator.toBehaviour (.trigger key source request) := rfl

theorem perform_cancel (history : History World Note Request Inner) (key : String) :
    history.perform correlator (.cancel key) =
      history.extend correlator.toBehaviour (.cancel key) := rfl

theorem perform_forget (history : History World Note Request Inner) (key : String) :
    history.perform correlator (.forget key) =
      history.extend correlator.toBehaviour (.forget key) := rfl

theorem perform_close (history : History World Note Request Inner) :
    history.perform correlator .close =
      (history.extend correlator.toBehaviour .queueClose).settle correlator := rfl

/-- The history of a script is made operation by operation. -/
theorem ofScript_eq_foldl (settings : Settings) (world : World)
    (script : List (Operation Request)) :
    ofScript correlator settings world script =
      script.foldl (perform correlator) (begin settings world) := by
  have fromAny (history : History World Note Request Inner) :
      (State.occurrencesOfAll correlator history.state script).foldl
        (extend correlator.toBehaviour) history = script.foldl (perform correlator) history := by
    induction script generalizing history with
    | nil => rfl
    | cons operation operations ih =>
        rw [State.occurrencesOfAll, List.foldl_append, List.foldl_cons, ← ih, perform_state]
        rfl
  exact fromAny (begin settings world)

/-- What survives turns of whatever stands first survives until all is settled. -/
theorem settle_induction (holds : History World Note Request Inner → Prop)
    (turn : ∀ history, holds history → holds (history.extend correlator.toBehaviour (.turn 0)))
    {history : History World Note Request Inner} (initially : holds history) :
    holds (history.settle correlator) := by
  unfold settle State.settling
  generalize State.workload correlator history.state = count
  induction count generalizing history with
  | zero => exact initially
  | succ count ih =>
      rw [List.replicate_succ, List.foldl_cons]
      exact ih (turn history initially)

/-- What survives every occurrence survives every operation. -/
theorem perform_induction (holds : History World Note Request Inner → Prop)
    (next : ∀ history occurrence, holds history →
      holds (history.extend correlator.toBehaviour occurrence))
    {history : History World Note Request Inner} (initially : holds history)
    (operation : Operation Request) : holds (history.perform correlator operation) := by
  unfold perform
  generalize State.occurrencesOf correlator history.state operation = occurrences
  induction occurrences generalizing history with
  | nil => exact initially
  | cons occurrence occurrences ih => exact ih (next history occurrence initially)

end History

end ListingAtlas.Session
