import ListingAtlas.Proofs.Session.Places

/-!
What comes of a turn for the task that has it: the task waits, or it ends with an outcome. Apart
from what its correlator does, only the debounce has a say in it, and whether the task is current.
-/

namespace ListingAtlas.Session

variable {World Note Request Inner : Type}

inductive Fate (Inner : Type) where
  | waits (stage : Stage Inner) (ticks : Option Nat)
  | ends (outcome : Outcome)

/-- Where a fate puts a task. -/
def Fate.place (clock : Nat) (task : Task Request Inner) : Fate Inner → Place Request Inner
  | .waits stage ticks => .waiting clock { task with stage } ticks
  | .ends outcome => .ended outcome

/-- What follows from a stretch of the correlator. -/
def Move.fate (current : Bool) : Move Inner → Fate Inner
  | .wait ticks inner => .waits (.correlating inner) ticks
  | .finish .cancelled => .ends .cancelled
  | .finish (.failure _) => .ends .nothing
  | .finish (.wordless _ escape) => .ends escape.outcome
  | .finish (.result correlation) => .ends (if current then .delivered correlation else .nothing)

/-- What comes of the wait before a correlation. -/
def Settings.fate (settings : Settings) : Fate Inner :=
  match settings.debounce with
  | none => .waits .debouncing none
  | some (.ticks count) => .waits .debouncing (some count)
  | some .immeasurable => .ends (.failed .immeasurableTime)

namespace State

variable (behaviour : Behaviour World Note Request Inner) (state : State World Note Request Inner)

def fate (task : Task Request Inner) (wake : Wake) : Fate Inner :=
  match task.stage, wake with
  | .correlating inner, wake =>
      (behaviour.resume state.world inner wake).move.fate (state.registry.isCurrent task.token)
  | _, .cancelled => .ends .cancelled
  | .scheduled, .elapsed => state.settings.fate
  | .debouncing, .elapsed =>
      if state.registry.isCurrent task.token then
        (behaviour.start state.world task.request task.token).move.fate true
      else .ends .nothing

theorem advanceBy_fate (calm : state.settings.Calm) (task : Task Request Inner)
    (progress : Progress World Note Inner) :
    Moved state (state.advanceBy task progress) task.token
      ((progress.move.fate (state.registry.isCurrent task.token)).place state.clock task) := by
  have unnoted {after : State World Note Request Inner} {place : Place Request Inner}
      (moved : Moved (state.noted progress) after task.token place) :
      Moved state after task.token place := ⟨moved.ready, moved.sleeping, moved.finished⟩
  cases move : progress.move with
  | wait ticks inner =>
      rw [advanceBy_wait state task progress move]
      exact unnoted (wait_moved _ _ _)
  | finish ending =>
      cases ending with
      | cancelled =>
          rw [advanceBy_cancelled state task progress move]
          exact unnoted (finish_moved _ _ _)
      | wordless isExpected escape =>
          rw [advanceBy_wordless state task progress move]
          have moved := finish_moved ((state.noted progress).log
            (wordlessRecords task.token.key isExpected)) task.token escape.outcome
          exact ⟨moved.ready, moved.sleeping, moved.finished⟩
      | failure failure =>
          rw [advanceBy_failure state task progress move]
          obtain ⟨outcome, silent, moved⟩ := fail_moved (state.noted progress) task.token failure
          rw [silent calm] at moved
          exact unnoted moved
      | result correlation =>
          rw [advanceBy_result state task progress move]
          obtain ⟨outcome, silent, moved⟩ :=
            deliver_moved (state.noted progress) task.token correlation
          rw [silent calm] at moved
          exact unnoted moved

theorem debounce_fate (task : Task Request Inner) :
    Moved state (state.debounce task) task.token (state.settings.fate.place state.clock task) := by
  unfold debounce Settings.fate
  cases state.settings.debounce with
  | none => exact wait_moved _ _ _
  | some span =>
      cases span with
      | ticks count => exact wait_moved _ _ _
      | immeasurable => exact finish_moved _ _ _

theorem runTask_fate (calm : state.settings.Calm) (task : Task Request Inner) (wake : Wake) :
    Moved state (runTask behaviour state task wake) task.token
      ((state.fate behaviour task wake).place state.clock task) := by
  unfold runTask fate
  cases task.stage with
  | scheduled =>
      cases wake with
      | cancelled => exact finish_moved _ _ _
      | elapsed => exact debounce_fate _ _
  | debouncing =>
      cases wake with
      | cancelled => exact finish_moved _ _ _
      | elapsed =>
          simp only
          by_cases current : state.registry.isCurrent task.token = true
          · rw [if_pos current, if_pos current, tellStatus_calm calm]
            have moved := (state.setStatus .recompiling "").advanceBy_fate calm task
              (behaviour.start state.world task.request task.token)
            have still :
                (state.setStatus .recompiling "").registry.isCurrent task.token = true := current
            rw [still] at moved
            exact ⟨moved.ready, moved.sleeping, moved.finished⟩
          · rw [if_neg current, if_neg current]
            exact finish_moved _ _ _
  | correlating inner => exact state.advanceBy_fate calm _ _

end State

/-! ### Correlators that mind their own request -/

/-- What follows each stretch depends neither on the world nor on the generation. -/
structure Behaviour.Secluded (behaviour : Behaviour World Note Request Inner) : Prop where
  start : ∀ world other request token another, token.key = another.key →
    (behaviour.start world request token).move = (behaviour.start other request another).move
  resume : ∀ world other inner wake,
    (behaviour.resume world inner wake).move = (behaviour.resume other inner wake).move

/-- For such correlators two sessions with the same debounce have the same in store for a task that
is current in both or in neither. -/
theorem Behaviour.Secluded.fate_eq {behaviour : Behaviour World Note Request Inner}
    (secluded : behaviour.Secluded) {one other : State World Note Request Inner}
    (settings : one.settings = other.settings) {task : Task Request Inner} {token : Token}
    (sameKey : task.token.key = token.key)
    (current : one.registry.isCurrent task.token = other.registry.isCurrent token) (wake : Wake) :
    one.fate behaviour task wake = other.fate behaviour { task with token } wake := by
  unfold State.fate
  rw [settings, current]
  cases task.stage with
  | scheduled => cases wake <;> rfl
  | debouncing =>
      cases wake with
      | cancelled => rfl
      | elapsed =>
          simp only
          rw [secluded.start one.world other.world task.request task.token token sameKey]
  | correlating inner =>
      simp only
      rw [secluded.resume one.world other.world inner wake]

end ListingAtlas.Session
