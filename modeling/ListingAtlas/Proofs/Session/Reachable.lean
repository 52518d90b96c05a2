import ListingAtlas.Proofs.Session.Registry
import ListingAtlas.Proofs.Session.Script

/-!
The states that a session can reach, and the calls of correlators that are in flight there. What is
ready has its turn first come, first served, and time passes only when nothing is ready; calls come
from outside whenever they like, between two turns as well.
-/

namespace ListingAtlas.Session

variable {World Note Request Inner : Type}

/-- Whether an occurrence can be the next one in a session that lets go of no task. -/
def Occurrence.InTurn (state : State World Note Request Inner) :
    Occurrence World Request → Prop
  | .forget _ => False
  | .wake _ => False
  | .turn position => position = 0
  | .tick => state.ready = []
  | _ => True

inductive Reaches (behaviour : Behaviour World Note Request Inner) (settings : Settings) :
    State World Note Request Inner → Prop
  | initial (world : World) : Reaches behaviour settings (State.initial settings world)
  | next {state : State World Note Request Inner} (occurrence : Occurrence World Request)
      (before : Reaches behaviour settings state) (inTurn : occurrence.InTurn state) :
      Reaches behaviour settings (state.occur behaviour occurrence)

/-! ### Calls in flight -/

/-- How many calls of the correlator for a key have begun and not ended. -/
def State.inFlight (state : State World Note Request Inner) (key : String) : Nat :=
  state.roster.countP fun entry => entry.1.key == key && entry.2 == .working

def Stage.isDebouncing : Stage Inner → Bool
  | .debouncing => true
  | _ => false

/-- How many calls of the correlator for a key an occurrence begins, where nothing escapes from the
call-back that is told of it. -/
def State.begins (state : State World Note Request Inner) (key : String) :
    Occurrence World Request → Nat
  | .turn position =>
      match state.ready[position]? with
      | some (.task task .elapsed) =>
          if task.token.key = key ∧ task.stage.isDebouncing = true ∧
            state.registry.isCurrent task.token = true then 1 else 0
      | _ => 0
  | _ => 0

/-- At most one call is in flight per key, whatever occurs and while it occurs. -/
def OneInFlight (behaviour : Behaviour World Note Request Inner) (settings : Settings) : Prop :=
  ∀ state, Reaches behaviour settings state → ∀ occurrence : Occurrence World Request,
    occurrence.InTurn state → ∀ key, state.inFlight key + state.begins key occurrence ≤ 1

/-! ### Histories that lead there -/

/-- What holds of every session holds where a session can get to. -/
theorem Reaches.exists_history {behaviour : Behaviour World Note Request Inner}
    {settings : Settings} {state : State World Note Request Inner}
    (reaches : Reaches behaviour settings state) :
    ∃ history : History World Note Request Inner, history.state = state ∧
      Sound settings history ∧ Registered history.state := by
  induction reaches with
  | initial world =>
      refine ⟨History.begin settings world, rfl, sound_begin settings world, ?_⟩
      intro key generation found
      cases found
  | next occurrence _before _inTurn ih =>
      obtain ⟨history, same, sound, registered⟩ := ih
      refine ⟨history.extend behaviour occurrence, ?_, sound.extend behaviour occurrence,
        registered.extend sound behaviour occurrence⟩
      rw [History.extend_state, same]

theorem Reaches.configured {behaviour : Behaviour World Note Request Inner}
    {settings : Settings} {state : State World Note Request Inner}
    (reaches : Reaches behaviour settings state) : state.settings = settings := by
  obtain ⟨history, rfl, sound, _registered⟩ := reaches.exists_history
  exact sound.configured

/-! ### Scripts -/

namespace Reaches

variable {correlator : Correlator World Note Request Inner} {settings : Settings}
  {state : State World Note Request Inner}

theorem turns {behaviour : Behaviour World Note Request Inner}
    (reaches : Reaches behaviour settings state) (count : Nat) :
    Reaches behaviour settings (State.turns behaviour count state) := by
  induction count generalizing state with
  | zero => exact reaches
  | succ count ih =>
      have turned := reaches.next (.turn 0) rfl
      rw [State.occur, State.turnAt_zero] at turned
      exact ih turned

theorem settle (reaches : Reaches correlator.toBehaviour settings state) :
    Reaches correlator.toBehaviour settings (state.settle correlator) :=
  reaches.turns _

theorem advance (reaches : Reaches correlator.toBehaviour settings state) (ticks : Nat) :
    Reaches correlator.toBehaviour settings (state.advance correlator ticks) := by
  induction ticks generalizing state with
  | zero => exact reaches.settle
  | succ ticks ih => exact ih (reaches.settle.next .tick (State.settle_ready correlator state))

theorem perform (reaches : Reaches correlator.toBehaviour settings state)
    {operation : Operation Request} (kept : ∀ key, operation ≠ .forget key) :
    Reaches correlator.toBehaviour settings (Session.perform correlator state operation) := by
  cases operation with
  | trigger key source request => exact reaches.next (.trigger key source request) trivial
  | cancel key => exact reaches.next (.cancel key) trivial
  | forget key => exact absurd rfl (kept key)
  | close => exact (reaches.next .queueClose trivial).settle
  | advance ticks => exact reaches.advance ticks

theorem performAll (reaches : Reaches correlator.toBehaviour settings state)
    (script : List (Operation Request))
    (kept : ∀ operation ∈ script, ∀ key, operation ≠ .forget key) :
    Reaches correlator.toBehaviour settings (Session.performAll correlator state script) := by
  induction script generalizing state with
  | nil => exact reaches
  | cons operation operations ih =>
      have first := reaches.perform (kept operation List.mem_cons_self)
      exact ih first fun other later => kept other (List.mem_cons_of_mem _ later)

end Reaches

/-! ### Tokens -/

/-- Every task carries the token that was issued for it. -/
structure Numbered (state : State World Note Request Inner) : Prop where
  next : 0 < state.registry.nextGeneration
  issued : ∀ entry ∈ state.roster, ∃ count : Nat,
    entry.1 = Token.issue entry.1.key (count + 1)

theorem Numbered.occur {state : State World Note Request Inner} (numbered : Numbered state)
    (behaviour : Behaviour World Note Request Inner) (occurrence : Occurrence World Request) :
    Numbered (state.occur behaviour occurrence) := by
  cases spoken : speaker? state occurrence with
  | none =>
      have only := occur_callOnly behaviour state occurrence spoken
      refine ⟨Int.lt_of_lt_of_le numbered.next only.next_le, ?_⟩
      intro entry member
      rcases only.mem_roster.mp member with added | kept
      · have positive := numbered.next
        have number := only.fresh added
        obtain ⟨call, _made, new⟩ := List.mem_flatMap.mp added
        cases call with
        | accepted key generation =>
            rw [Call.added, List.mem_singleton] at new
            rw [new] at number ⊢
            change generation = state.registry.nextGeneration at number
            refine ⟨(generation - 1).toNat, ?_⟩
            change Token.issue key generation =
              Token.issue key (((generation - 1).toNat : Int) + 1)
            congr 1
            omega
        | _ => cases new
      · exact numbered.issued entry kept
  | some task =>
      obtain ⟨position, wake, rfl, queued⟩ := speaker?_eq_some spoken
      obtain ⟨new, more, turn⟩ := state.occur_turnOf behaviour queued
      refine ⟨Int.lt_of_lt_of_le numbered.next (Int.le_of_eq turn.nextGeneration.symm), ?_⟩
      intro entry member
      obtain ⟨former, present, same⟩ := turn.exists_before queued member
      rw [← same]
      exact numbered.issued former present

theorem Reaches.numbered {behaviour : Behaviour World Note Request Inner} {settings : Settings}
    {state : State World Note Request Inner} (reaches : Reaches behaviour settings state) :
    Numbered state := by
  induction reaches with
  | initial world =>
      refine ⟨Int.zero_lt_one, ?_⟩
      intro entry member
      cases member
  | next occurrence _before _inTurn ih => exact ih.occur behaviour occurrence

end ListingAtlas.Session
