import ListingAtlas.Proofs.Session.Reachable
import ListingAtlas.Proofs.Session.Script

/-!
Journals of scripts. A journal is a history that also keeps when calls of the correlator have begun;
from it comes the account of a key, in which nothing is said of generations.
-/

namespace ListingAtlas.Session

variable {World Note Request Inner : Type}

/-! ### Journals -/

/-- A call of the correlator that has begun. -/
structure Start where
  token : Token
  clock : Nat

/-- The call that an occurrence begins: one that is announced, unless something escapes then. -/
def State.start? (state : State World Note Request Inner) :
    Occurrence World Request → Option Start
  | .turn position =>
      match state.ready[position]? with
      | some (.task task .elapsed) =>
          if task.stage.isDebouncing && state.registry.isCurrent task.token &&
              (state.raised? begun).isNone then
            some { token := task.token, clock := state.clock }
          else none
      | _ => none
  | _ => none

theorem State.start?_eq_some {state : State World Note Request Inner}
    {occurrence : Occurrence World Request} {start : Start} :
    state.start? occurrence = some start ↔ ∃ position task, occurrence = .turn position ∧
      state.ready[position]? = some (.task task .elapsed) ∧ task.stage = .debouncing ∧
        state.registry.isCurrent task.token = true ∧ state.raised? begun = none ∧
          start = ⟨task.token, state.clock⟩ := by
  constructor
  · intro begins
    cases occurrence with
    | turn position =>
        simp only [start?] at begins
        split at begins
        · rename_i task queued
          split at begins
          · rename_i ripe
            rw [Bool.and_eq_true, Bool.and_eq_true, Option.isNone_iff_eq_none] at ripe
            have stage : task.stage = .debouncing := by
              cases stage : task.stage with
              | debouncing => rfl
              | _ => simp [stage, Stage.isDebouncing] at ripe
            exact ⟨position, task, rfl, queued, stage, ripe.1.2, ripe.2,
              (Option.some.inj begins).symm⟩
          · cases begins
        · cases begins
    | _ => cases begins
  · rintro ⟨position, task, rfl, queued, stage, current, silent, rfl⟩
    simp [start?, queued, stage, current, silent, Stage.isDebouncing]

/-- A history that keeps which calls of the correlator have begun, and when. -/
structure Journal (World Note Request Inner : Type) where
  history : History World Note Request Inner
  starts : List Start

namespace Journal

def begin (settings : Settings) (world : World) : Journal World Note Request Inner :=
  { history := History.begin settings world, starts := [] }

def state (journal : Journal World Note Request Inner) : State World Note Request Inner :=
  journal.history.state

def extend (behaviour : Behaviour World Note Request Inner)
    (journal : Journal World Note Request Inner) (occurrence : Occurrence World Request) :
    Journal World Note Request Inner :=
  { history := journal.history.extend behaviour occurrence
    starts := journal.starts ++ (journal.state.start? occurrence).toList }

def perform (correlator : Correlator World Note Request Inner)
    (journal : Journal World Note Request Inner) (operation : Operation Request) :
    Journal World Note Request Inner :=
  (State.occurrencesOf correlator journal.state operation).foldl (extend correlator.toBehaviour)
    journal

/-- The journal of a script. -/
def ofScript (correlator : Correlator World Note Request Inner) (settings : Settings)
    (world : World) (script : List (Operation Request)) : Journal World Note Request Inner :=
  script.foldl (perform correlator) (begin settings world)

variable {behaviour : Behaviour World Note Request Inner}
  {correlator : Correlator World Note Request Inner}

theorem extend_state (behaviour : Behaviour World Note Request Inner)
    (journal : Journal World Note Request Inner) (occurrence : Occurrence World Request) :
    (journal.extend behaviour occurrence).state = journal.state.occur behaviour occurrence := rfl

theorem extend_starts (behaviour : Behaviour World Note Request Inner)
    (journal : Journal World Note Request Inner) (occurrence : Occurrence World Request) :
    (journal.extend behaviour occurrence).starts =
      journal.starts ++ (journal.state.start? occurrence).toList := rfl

theorem foldl_extend_history (behaviour : Behaviour World Note Request Inner)
    (journal : Journal World Note Request Inner) (occurrences : List (Occurrence World Request)) :
    (occurrences.foldl (extend behaviour) journal).history =
      occurrences.foldl (History.extend behaviour) journal.history := by
  induction occurrences generalizing journal with
  | nil => rfl
  | cons occurrence occurrences ih =>
      rw [List.foldl_cons, ih, List.foldl_cons]
      rfl

/-- A journal keeps the history of its script. -/
theorem ofScript_history (correlator : Correlator World Note Request Inner) (settings : Settings)
    (world : World) (script : List (Operation Request)) :
    (ofScript correlator settings world script).history =
      History.ofScript correlator settings world script := by
  rw [History.ofScript_eq_foldl]
  have fromAny (journal : Journal World Note Request Inner) :
      (script.foldl (perform correlator) journal).history =
        script.foldl (History.perform correlator) journal.history := by
    induction script generalizing journal with
    | nil => rfl
    | cons operation operations ih =>
        rw [List.foldl_cons, ih, List.foldl_cons, perform, foldl_extend_history]
        rfl
  exact fromAny (begin settings world)

/-! ### Settling -/

theorem extend_turn_of_ready_nil {journal : Journal World Note Request Inner}
    (settled : journal.state.ready = []) : journal.extend behaviour (.turn 0) = journal := by
  have settled : journal.history.state.ready = [] := settled
  obtain ⟨⟨state, calls, ledger⟩, starts⟩ := journal
  simp only at settled
  simp [extend, History.extend, State.occur, State.turnAt, callOf?, speaker?, recordsBetween,
    State.start?, Journal.state, settled]

def turns (behaviour : Behaviour World Note Request Inner) :
    Nat → Journal World Note Request Inner → Journal World Note Request Inner
  | 0, journal => journal
  | count + 1, journal => turns behaviour count (journal.extend behaviour (.turn 0))

theorem foldl_turn (count : Nat) (journal : Journal World Note Request Inner) :
    (List.replicate count (.turn 0)).foldl (extend behaviour) journal =
      turns behaviour count journal := by
  induction count generalizing journal with
  | zero => rfl
  | succ count ih => exact ih _

theorem turns_state (count : Nat) (journal : Journal World Note Request Inner) :
    (turns behaviour count journal).state = State.turns behaviour count journal.state := by
  induction count generalizing journal with
  | zero => rfl
  | succ count ih =>
      rw [turns, ih, extend_state, State.occur, State.turnAt_zero]
      rfl

theorem turns_of_ready_nil {journal : Journal World Note Request Inner}
    (settled : journal.state.ready = []) (count : Nat) :
    turns behaviour count journal = journal := by
  induction count with
  | zero => rfl
  | succ count ih => rw [turns, extend_turn_of_ready_nil settled, ih]

theorem turns_add (first second : Nat) (journal : Journal World Note Request Inner) :
    turns behaviour (first + second) journal =
      turns behaviour second (turns behaviour first journal) := by
  induction first generalizing journal with
  | zero => rw [Nat.zero_add, turns]
  | succ first ih => rw [Nat.succ_add, turns, ih, turns]

/-- More turns than it takes to settle come to the same. -/
theorem turns_eq_of_ready_nil {first second : Nat} {journal : Journal World Note Request Inner}
    (settled : (turns behaviour first journal).state.ready = [])
    (settled' : (turns behaviour second journal).state.ready = []) :
    turns behaviour first journal = turns behaviour second journal := by
  rcases Nat.le_total first second with fewer | fewer
  · rw [← Nat.add_sub_cancel' fewer, turns_add, turns_of_ready_nil settled]
  · rw [← Nat.add_sub_cancel' fewer, turns_add, turns_of_ready_nil settled']

def settle (correlator : Correlator World Note Request Inner)
    (journal : Journal World Note Request Inner) : Journal World Note Request Inner :=
  (State.settling correlator journal.state).foldl (extend correlator.toBehaviour) journal

theorem settle_eq_turns (journal : Journal World Note Request Inner) :
    journal.settle correlator =
      Journal.turns correlator.toBehaviour (State.workload correlator journal.state) journal :=
  foldl_turn _ journal

theorem settle_state (journal : Journal World Note Request Inner) :
    (journal.settle correlator).state = journal.state.settle correlator := by
  rw [settle_eq_turns, turns_state]
  rfl

theorem perform_advance (journal : Journal World Note Request Inner) (ticks : Nat) :
    journal.perform correlator (.advance (ticks + 1)) =
      ((journal.settle correlator).extend correlator.toBehaviour .tick).perform correlator
        (.advance ticks) := by
  have ticked : ((journal.settle correlator).extend correlator.toBehaviour .tick).state =
      (journal.state.settle correlator).tick := by
    rw [extend_state, settle_state]
    rfl
  simp only [perform, State.occurrencesOf, State.passing, List.foldl_append, List.foldl_cons,
    ticked]
  rfl

end Journal

/-! ### Accounts -/

/-- What a session tells of one key, without generations. -/
structure Account where
  latest : Option Correlation
  /-- Whether the current token is cancelled, if there is one. -/
  cancelled : Option Bool
  delivered : List Correlation
  /-- For each trigger that was accepted, in order: the ticks at which its correlator was started,
  and how its task has ended. -/
  triggers : List (List Nat × Option Outcome)
deriving DecidableEq, Repr

/-- The generation of a trigger of a key. -/
def Call.acceptedFor? (key : String) : Call → Option Int
  | .accepted other generation => if other = key then some generation else none
  | _ => none

def Start.clockFor? (key : String) (generation : Int) (start : Start) : Option Nat :=
  if start.token.key = key ∧ start.token.generation = generation then some start.clock else none

namespace Journal

def accepted (journal : Journal World Note Request Inner) (key : String) : List Int :=
  journal.history.calls.filterMap (Call.acceptedFor? key)

def startsOf (journal : Journal World Note Request Inner) (key : String) (generation : Int) :
    List Nat :=
  journal.starts.filterMap (Start.clockFor? key generation)

def account (journal : Journal World Note Request Inner) (key : String) : Account :=
  { latest := journal.state.latest key
    cancelled := (journal.state.registry.tokens.get? key).map Token.cancelled
    delivered := (journal.state.deliveries key).map Prod.snd
    triggers := (journal.accepted key).map fun generation =>
      (journal.startsOf key generation, journal.state.outcome? generation) }

theorem extend_accepted (behaviour : Behaviour World Note Request Inner)
    (journal : Journal World Note Request Inner) (occurrence : Occurrence World Request)
    (key : String) :
    (journal.extend behaviour occurrence).accepted key = journal.accepted key ++
      (callOf? journal.state occurrence).toList.filterMap (Call.acceptedFor? key) :=
  List.filterMap_append

end Journal

theorem Journal.mem_accepted {journal : Journal World Note Request Inner} {key : String}
    {generation : Int} :
    generation ∈ journal.accepted key ↔ .accepted key generation ∈ journal.history.calls := by
  unfold accepted
  rw [List.mem_filterMap]
  constructor
  · rintro ⟨call, called, made⟩
    cases call with
    | accepted other named =>
        simp only [Call.acceptedFor?] at made
        split at made
        · rename_i same
          rw [← same, ← Option.some.inj made]
          exact called
        · cases made
    | _ => cases made
  · intro called
    exact ⟨_, called, if_pos rfl⟩

end ListingAtlas.Session
