import ListingAtlas.Proofs.Session.Aftermath
import ListingAtlas.Proofs.Session.Stillness

/-!
Scripts of planned correlations. A trigger starts its correlation just when its debounce is over, and
only if no operation has disturbed it by then; a correlation that is not disturbed either ends after
its duration, and is heard.
-/

namespace ListingAtlas.Session

variable {World : Type}

/-! ### Operations that disturb -/

def Operation.ticks : Operation Plan → Nat
  | .advance ticks => ticks
  | _ => 0

/-- Whether an operation puts an end to what was triggered before for a key. -/
def Operation.Disturbs (key : String) : Operation Plan → Prop
  | .trigger other source _ => other = key ∧ State.accepts source = true
  | .cancel other => other = key
  | .close => True
  | _ => False

/-- No operation of a script that begins at a tick disturbs a key before another tick. -/
def Undisturbed (key : String) (bound : Nat) : Nat → List (Operation Plan) → Prop
  | _, [] => True
  | clock, operation :: operations =>
      (clock < bound → ¬ operation.Disturbs key) ∧
        Undisturbed key bound (clock + operation.ticks) operations

instance (key : String) : DecidablePred (Operation.Disturbs key)
  | .trigger _ _ _ => inferInstanceAs (Decidable (_ ∧ _))
  | .cancel _ => inferInstanceAs (Decidable (_ = _))
  | .close => isTrue trivial
  | .forget _ => isFalse not_false
  | .advance _ => isFalse not_false

instance undisturbedDecidable (key : String) (bound : Nat) :
    (clock : Nat) → (operations : List (Operation Plan)) →
      Decidable (Undisturbed key bound clock operations)
  | _, [] => isTrue trivial
  | clock, operation :: operations =>
      have := undisturbedDecidable key bound (clock + operation.ticks) operations
      inferInstanceAs (Decidable (_ ∧ _))

theorem undisturbed_of_le {key : String} {bound clock : Nat} (past : bound ≤ clock)
    (operations : List (Operation Plan)) : Undisturbed key bound clock operations := by
  induction operations generalizing clock with
  | nil => trivial
  | cons operation operations ih => exact ⟨fun early => by omega, ih (by omega)⟩

/-! ### Clocks -/

namespace History

theorem extend_clock (behaviour : Behaviour World PlanNote Plan PlanState)
    (history : History World PlanNote Plan PlanState) (occurrence : Occurrence World Plan) :
    (history.extend behaviour occurrence).state.clock =
      history.state.clock + occurrence.ticks :=
  State.occur_clock behaviour history.state occurrence

theorem settle_clock (history : History World PlanNote Plan PlanState) :
    (history.settle (planned World)).state.clock = history.state.clock := by
  refine settle_induction (fun next => next.state.clock = history.state.clock) ?_ rfl
  intro next same
  rw [extend_clock]
  exact same

theorem pass_clock (ticks : Nat) (history : History World PlanNote Plan PlanState) :
    (history.pass (planned World) ticks).state.clock = history.state.clock + ticks := by
  induction ticks generalizing history with
  | zero => exact settle_clock history
  | succ ticks ih =>
      rw [pass, ih]
      change (history.settle (planned World)).state.clock + 1 + ticks = _
      rw [settle_clock]
      omega

theorem perform_clock (history : History World PlanNote Plan PlanState)
    (operation : Operation Plan) :
    (history.perform (planned World) operation).state.clock =
      history.state.clock + operation.ticks := by
  cases operation with
  | close =>
      rw [perform_close, settle_clock]
      rfl
  | advance ticks =>
      rw [perform_advance, pass_clock]
      rfl
  | trigger key source plan =>
      rw [perform_trigger, extend_clock]
      rfl
  | cancel key =>
      rw [perform_cancel, extend_clock]
      rfl
  | forget key =>
      rw [perform_forget, extend_clock]
      rfl

/-! ### Queues without calls to close -/

/-- No call to close waits in the queue. -/
def Unclosed (history : History World PlanNote Plan PlanState) : Prop :=
  history.state.ready.countP State.isClosing = 0

theorem Unclosed.not_closing {history : History World PlanNote Plan PlanState}
    (unclosed : history.Unclosed) (position : Nat) :
    history.state.ready[position]? ≠ some .closing := by
  intro found
  have member := List.mem_of_getElem? found
  exact List.countP_eq_zero.mp unclosed _ member rfl

theorem unclosed_of_settled {history : History World PlanNote Plan PlanState}
    (settled : history.state.ready = []) : history.Unclosed := by
  unfold Unclosed
  rw [settled]
  rfl

theorem Unclosed.turn {history : History World PlanNote Plan PlanState}
    (unclosed : history.Unclosed) (position : Nat) :
    (history.extend (planned World).toBehaviour (.turn position)).Unclosed := by
  have erased : (history.state.taken position).ready.countP State.isClosing = 0 := by
    have fewer : (history.state.ready.eraseIdx position).countP State.isClosing ≤
        history.state.ready.countP State.isClosing := (List.eraseIdx_sublist _ _).countP_le
    rw [unclosed] at fewer
    exact Nat.le_zero.mp fewer
  cases found : history.state.ready[position]? with
  | none =>
      have same : (history.state.occur (planned World).toBehaviour (.turn position)) =
          history.state := by simp only [State.occur, State.turnAt, found]
      unfold Unclosed
      change (history.state.occur (planned World).toBehaviour (.turn position)).ready.countP _ = 0
      rw [same]
      exact unclosed
  | some item =>
      cases item with
      | closing => exact absurd found (unclosed.not_closing position)
      | task task wake =>
          obtain ⟨place, _goes, moved⟩ := State.runTask_moved (planned World).toBehaviour
            (history.state.taken position) task wake
          unfold Unclosed
          rw [extend_turn_state _ found, (State.moved_lengths moved).2]
          exact erased

theorem Unclosed.tick {history : History World PlanNote Plan PlanState}
    (unclosed : history.Unclosed) (behaviour : Behaviour World PlanNote Plan PlanState) :
    (history.extend behaviour .tick).Unclosed := by
  change (history.state.ready ++ _).countP State.isClosing = 0
  rw [List.countP_append, unclosed, State.closings_woken]

theorem supersede_closings (state : State World PlanNote Plan PlanState) (key : String) :
    (state.supersede key).ready.countP State.isClosing = state.ready.countP State.isClosing :=
  (State.supersede_woken (planned World) state key).closings

theorem Unclosed.trigger {history : History World PlanNote Plan PlanState}
    (unclosed : history.Unclosed) (behaviour : Behaviour World PlanNote Plan PlanState)
    (key : String) (source : Path) (plan : Plan) :
    (history.extend behaviour (.trigger key source plan)).Unclosed := by
  change (history.state.trigger key source plan).ready.countP State.isClosing = 0
  unfold State.trigger
  split
  · change ((history.state.supersede key).ready ++ _).countP State.isClosing = 0
    rw [List.countP_append, supersede_closings, unclosed]
    rfl
  · exact unclosed

theorem Unclosed.cancel {history : History World PlanNote Plan PlanState}
    (unclosed : history.Unclosed) (behaviour : Behaviour World PlanNote Plan PlanState)
    (key : String) : (history.extend behaviour (.cancel key)).Unclosed := by
  change (history.state.supersede key).ready.countP State.isClosing = 0
  rw [supersede_closings]
  exact unclosed

theorem Unclosed.perform {history : History World PlanNote Plan PlanState}
    (unclosed : history.Unclosed) (operation : Operation Plan) :
    (history.perform (planned World) operation).Unclosed := by
  cases operation with
  | trigger key source plan => exact unclosed.trigger _ key source plan
  | cancel key => exact unclosed.cancel _ key
  | forget key => exact unclosed
  | close =>
      rw [perform_close]
      exact unclosed_of_settled (settle_ready _)
  | advance ticks =>
      rw [perform_advance]
      exact unclosed_of_settled (pass_ready ticks history)

end History

/-! ### Undisturbed triggers -/

namespace Course

variable {course : Course}

/-- Between operations, a trigger that keeps its course stands as it did when it was accepted, sleeps
or has ended. -/
structure Keeps (course : Course) (history : History World PlanNote Plan PlanState) : Prop
    extends Holds course history where
  unclosed : history.Unclosed
  rested : ∀ task wake, Place.queued task wake ∈ history.state.placesOf course.generation →
    task.stage = .scheduled

theorem Holds.keeps {history : History World PlanNote Plan PlanState}
    (holds : course.Holds history) (settled : history.state.ready = []) : course.Keeps history :=
  { holds with
    unclosed := History.unclosed_of_settled settled
    rested := fun _task _wake queued => absurd queued (not_queued settled) }

theorem Holds.settle {history : History World PlanNote Plan PlanState}
    (holds : course.Holds history)
    (debounce : course.settings.debounce = some (.ticks course.debounce))
    (positive : 0 < course.debounce) (unclosed : history.Unclosed) :
    course.Holds (history.settle (planned World)) := by
  have both : course.Holds (history.settle (planned World)) ∧
      (history.settle (planned World)).Unclosed := by
    refine History.settle_induction (fun next => course.Holds next ∧ next.Unclosed) ?_
      ⟨holds, unclosed⟩
    intro next before
    exact ⟨before.1.turn debounce positive (before.2.not_closing 0), before.2.turn 0⟩
  exact both.1

theorem Holds.pass {history : History World PlanNote Plan PlanState}
    (holds : course.Holds history)
    (debounce : course.settings.debounce = some (.ticks course.debounce))
    (positive : 0 < course.debounce) (unclosed : history.Unclosed) (ticks : Nat) :
    course.Keeps (history.pass (planned World) ticks) := by
  induction ticks generalizing history with
  | zero =>
      exact (holds.settle debounce positive unclosed).keeps (History.settle_ready history)
  | succ ticks ih =>
      have settled : (history.settle (planned World)).state.ready = [] :=
        History.settle_ready history
      have still := holds.settle debounce positive unclosed
      exact ih (still.tick settled) ((History.unclosed_of_settled settled).tick _)

theorem Keeps.steady {history next : History World PlanNote Plan PlanState}
    (keeps : course.Keeps history) (steady : course.Steady history next)
    (unclosed : next.Unclosed) : course.Keeps next :=
  { keeps.toHolds.steady steady with
    unclosed
    rested := fun task wake queued => keeps.rested task wake (steady.places.mem_iff.mp queued) }

theorem Keeps.perform {history : History World PlanNote Plan PlanState}
    (keeps : course.Keeps history)
    (debounce : course.settings.debounce = some (.ticks course.debounce))
    (positive : 0 < course.debounce) {operation : Operation Plan}
    (apart : ¬ operation.Disturbs course.key) :
    course.Keeps (history.perform (planned World) operation) := by
  have unclosed := keeps.unclosed.perform operation
  cases operation with
  | trigger key source plan =>
      have other : State.accepts source = true → key ≠ course.key := by
        intro accepted same
        exact apart ⟨same, accepted⟩
      exact keeps.steady (keeps.toHolds.trigger other plan) unclosed
  | cancel key => exact keeps.steady (keeps.toHolds.cancel apart) unclosed
  | forget key => exact keeps.steady (keeps.toHolds.forget key) unclosed
  | close => exact absurd trivial apart
  | advance ticks =>
      rw [History.perform_advance]
      exact keeps.toHolds.pass debounce positive keeps.unclosed ticks

/-- How far the course has got between operations. -/
theorem Keeps.progress {history : History World PlanNote Plan PlanState}
    (keeps : course.Keeps history) (positive : 0 < course.debounce) :
    (history.state.clock < course.start ∧
        recordsFor course.generation history.ledger = [] ∧
        ∀ entry ∈ history.state.roster, entry.1.generation = course.generation →
          entry = (course.token, .waiting)) ∨
      (course.start ≤ history.state.clock ∧ history.state.clock < course.stop ∧
        recordsFor course.generation history.ledger = course.opening ∧
        ∀ entry ∈ history.state.roster, entry.1.generation = course.generation →
          entry.2 = .working) ∨
      (course.stop ≤ history.state.clock ∧
        recordsFor course.generation history.ledger = course.opening ++ course.ending ∧
        history.state.latest course.key = course.kept ∧
        ∀ entry ∈ history.state.roster, entry.1.generation = course.generation →
          ∃ outcome, entry.2 = .ended outcome) := by
  obtain ⟨place, here, stands⟩ := keeps.stands
  have shown (entry : Token × Phase) (member : entry ∈ history.state.roster)
      (named : entry.1.generation = course.generation) : place.Shows entry := by
    obtain ⟨other, present, shows⟩ := State.exists_place member
    rw [named, here, List.mem_singleton] at present
    rw [← present]
    exact shows
  have rested := keeps.rested
  rw [here] at rested
  generalize history.state.clock = clock at stands
  generalize recordsFor course.generation history.ledger = records at stands
  generalize history.state.latest course.key = latest at stands
  cases stands with
  | scheduled => exact Or.inl ⟨Nat.lt_add_of_pos_right positive, rfl, shown⟩
  | debouncing clock accepted early => exact Or.inl ⟨early, rfl, shown⟩
  | due => cases rested _ _ (List.mem_singleton_self _)
  | working clock started early timed =>
      refine Or.inr (Or.inl ⟨started, early, rfl, ?_⟩)
      intro entry member named
      rw [shown entry member named]
      rfl
  | ripe timed => cases rested _ _ (List.mem_singleton_self _)
  | ended outcome clock past =>
      refine Or.inr (Or.inr ⟨past, rfl, rfl, ?_⟩)
      intro entry member named
      exact ⟨outcome, shown entry member named⟩

theorem startsIn_opening (course : Course) : startsIn course.opening = [course.start] := rfl

theorem startsIn_ending (course : Course) : startsIn course.ending = [] := by
  apply startsIn_recordsOf_nil
  intro event member
  exact Event.isStart_of_isSpoken
    (Ending.said_isSpoken course.key course.plan.conclusion event member)

theorem Keeps.begun {history : History World PlanNote Plan PlanState}
    (keeps : course.Keeps history) (positive : 0 < course.debounce)
    (started : course.start ≤ history.state.clock) :
    Begun course.generation [course.start] history := by
  rcases keeps.progress positive with ⟨early, _⟩ | ⟨_, _, records, phases⟩ |
    ⟨_, records, _, phases⟩
  · omega
  · refine ⟨keeps.issued, ?_, ?_⟩
    · intro entry member named
      rw [phases entry member named]
      simp
    · rw [records, startsIn_opening]
  · refine ⟨keeps.issued, ?_, ?_⟩
    · intro entry member named
      obtain ⟨outcome, ended⟩ := phases entry member named
      rw [ended]
      simp
    · rw [records, startsIn_append, startsIn_opening, startsIn_ending]
      rfl

theorem Keeps.ended {history : History World PlanNote Plan PlanState}
    (keeps : course.Keeps history) (positive : 0 < course.debounce)
    (past : course.stop ≤ history.state.clock) :
    Over course.generation (course.opening ++ course.ending) history := by
  have later : course.start ≤ course.stop := Nat.le_add_right _ _
  rcases keeps.progress positive with ⟨early, _⟩ | ⟨_, early, _⟩ | ⟨_, records, _, phases⟩
  · omega
  · omega
  · exact ⟨keeps.issued, phases, records⟩

/-! ### Disturbed triggers -/

theorem Holds.waiting {history : History World PlanNote Plan PlanState}
    (holds : course.Holds history) (early : history.state.clock < course.start) :
    Follows course.generation
      (fun entry => entry = (course.token, .waiting) ∨ ∃ outcome, entry.2 = .ended outcome)
      (· = []) history := by
  have later : course.start ≤ course.stop := Nat.le_add_right _ _
  obtain ⟨place, here, stands⟩ := holds.stands
  have shown (entry : Token × Phase) (member : entry ∈ history.state.roster)
      (named : entry.1.generation = course.generation) : place.Shows entry := by
    obtain ⟨other, present, shows⟩ := State.exists_place member
    rw [named, here, List.mem_singleton] at present
    rw [← present]
    exact shows
  generalize clock : history.state.clock = tick at stands
  generalize heard : recordsFor course.generation history.ledger = records at stands
  generalize history.state.latest course.key = latest at stands
  cases stands with
  | scheduled =>
      exact ⟨holds.issued, fun entry member named => Or.inl (shown entry member named), heard⟩
  | debouncing clock accepted early =>
      exact ⟨holds.issued, fun entry member named => Or.inl (shown entry member named), heard⟩
  | _ => omega

/-- A call that counts for the key drops a trigger that has not started. -/
theorem Holds.dropped {history : History World PlanNote Plan PlanState}
    (holds : course.Holds history) (early : history.state.clock < course.start)
    (behaviour : Behaviour World PlanNote Plan PlanState) {occurrence : Occurrence World Plan}
    (unspoken : speaker? history.state occurrence = none) {call : Call}
    (called : callOf? history.state occurrence = some call) (ends : call.Ends course.key) :
    Dropped course.token (history.extend behaviour occurrence) := by
  have only := occur_callOnly behaviour history.state occurrence unspoken
  rw [called] at only
  exact ⟨only.stale_of_ends holds.issued ends, (holds.waiting early).call behaviour unspoken⟩

/-- A trigger that a call to close has dropped, or will when it is its turn. -/
def Closes (course : Course) (history : History World PlanNote Plan PlanState) : Prop :=
  (course.Holds history ∧ history.state.clock < course.start ∧
    Item.closing ∈ history.state.ready) ∨ Dropped course.token history

theorem Closes.turn {history : History World PlanNote Plan PlanState}
    (closes : course.Closes history)
    (debounce : course.settings.debounce = some (.ticks course.debounce))
    (positive : 0 < course.debounce) :
    course.Closes (history.extend (planned World).toBehaviour (.turn 0)) := by
  rcases closes with ⟨holds, early, queued⟩ | dropped
  · cases found : history.state.ready[0]? with
    | none =>
        rw [List.getElem?_eq_none_iff] at found
        rw [List.eq_nil_of_length_eq_zero (Nat.le_zero.mp found)] at queued
        cases queued
    | some item =>
        cases item with
        | closing =>
            right
            have unspoken : speaker? history.state (.turn 0 : Occurrence World Plan) = none := by
              simp only [speaker?, found]
            have called : callOf? history.state (.turn 0 : Occurrence World Plan) =
                some .closed := by simp only [callOf?, found]
            exact holds.dropped early _ unspoken called trivial
        | task task wake =>
            left
            have open' : history.state.ready[0]? ≠ some .closing := by
              rw [found]
              simp
            refine ⟨holds.turn debounce positive open', ?_, ?_⟩
            · rw [History.extend_clock]
              exact early
            · obtain ⟨place, _goes, moved⟩ := State.runTask_moved (planned World).toBehaviour
                (history.state.taken 0) task wake
              rw [extend_turn_state _ found, moved.ready]
              apply List.mem_append_left
              change Item.closing ∈ history.state.ready.eraseIdx 0
              cases queue : history.state.ready with
              | nil =>
                  rw [queue] at queued
                  cases queued
              | cons first rest =>
                  rw [queue] at found queued
                  rcases List.mem_cons.mp queued with same | later
                  · rw [← same] at found
                    cases found
                  · exact later
  · exact Or.inr (dropped.extend _ _)

/-- Closing drops a trigger that has not started, though other turns may come before. -/
theorem Holds.dropped_close {history : History World PlanNote Plan PlanState}
    (holds : course.Holds history)
    (debounce : course.settings.debounce = some (.ticks course.debounce))
    (positive : 0 < course.debounce) (early : history.state.clock < course.start) :
    Dropped course.token (history.perform (planned World) .close) := by
  rw [History.perform_close]
  have closes := History.settle_induction course.Closes
    (fun next before => before.turn debounce positive)
    (Or.inl ⟨holds.steady holds.queueClose, early, List.mem_append_right _ (by simp)⟩ :
      course.Closes (history.extend (planned World).toBehaviour .queueClose))
  rcases closes with ⟨_holds, _early, queued⟩ | dropped
  · rw [History.settle_ready] at queued
    cases queued
  · exact dropped

theorem Keeps.perform_dropped {history : History World PlanNote Plan PlanState}
    (keeps : course.Keeps history)
    (debounce : course.settings.debounce = some (.ticks course.debounce))
    (positive : 0 < course.debounce) (early : history.state.clock < course.start)
    {operation : Operation Plan} (disturbs : operation.Disturbs course.key) :
    Dropped course.token (history.perform (planned World) operation) := by
  cases operation with
  | trigger key source plan =>
      obtain ⟨same, accepted⟩ := disturbs
      have called : callOf? history.state (.trigger key source plan : Occurrence World Plan) =
          some (.accepted key history.state.registry.nextGeneration) := by
        simp only [callOf?, if_pos accepted]
      rw [History.perform_trigger]
      exact keeps.toHolds.dropped early _ rfl called same
  | cancel key => exact keeps.toHolds.dropped early _ rfl rfl disturbs
  | forget key => cases disturbs
  | close => exact keeps.toHolds.dropped_close debounce positive early
  | advance ticks => cases disturbs

/-! ### Scripts from a trigger on -/

theorem clock_le (history : History World PlanNote Plan PlanState)
    (operations : List (Operation Plan)) :
    history.state.clock ≤
      (operations.foldl (History.perform (planned World)) history).state.clock := by
  induction operations generalizing history with
  | nil => exact Nat.le_refl _
  | cons operation operations ih =>
      have moved := History.perform_clock history operation
      have later := ih (history.perform (planned World) operation)
      rw [List.foldl_cons]
      omega

theorem run_induction (holds : History World PlanNote Plan PlanState → Prop)
    (next : ∀ history occurrence, holds history →
      holds (history.extend (planned World).toBehaviour occurrence))
    {history : History World PlanNote Plan PlanState} (initially : holds history)
    (operations : List (Operation Plan)) :
    holds (operations.foldl (History.perform (planned World)) history) := by
  induction operations generalizing history with
  | nil => exact initially
  | cons operation operations ih =>
      exact ih (History.perform_induction holds next initially operation)

/-- When the correlation starts, in all that follows a trigger. -/
theorem Keeps.starts {history : History World PlanNote Plan PlanState}
    (keeps : course.Keeps history)
    (debounce : course.settings.debounce = some (.ticks course.debounce))
    (positive : 0 < course.debounce) (operations : List (Operation Plan)) :
    startsIn (recordsFor course.generation
        (operations.foldl (History.perform (planned World)) history).ledger) =
      if course.start ≤ (operations.foldl (History.perform (planned World)) history).state.clock ∧
        Undisturbed course.key course.start history.state.clock operations
      then [course.start] else [] := by
  induction operations generalizing history with
  | nil =>
      by_cases early : history.state.clock < course.start
      · rw [List.foldl_nil, (keeps.toHolds.waiting early).records, if_neg (by omega)]
        rfl
      · have started : course.start ≤ history.state.clock := by omega
        rw [List.foldl_nil, (keeps.begun positive started).records, if_pos ⟨started, trivial⟩]
  | cons operation operations ih =>
      by_cases early : history.state.clock < course.start
      · by_cases disturbs : operation.Disturbs course.key
        · have dropped := keeps.perform_dropped debounce positive early disturbs
          have stays := run_induction (Dropped course.token)
            (fun _history occurrence before => before.extend _ occurrence) dropped operations
          have silent : recordsFor course.generation ((operation :: operations).foldl
              (History.perform (planned World)) history).ledger = [] := stays.unheard.records
          rw [silent, if_neg fun both => both.2.1 early disturbs]
          rfl
        · have next := ih (keeps.perform debounce positive disturbs)
          rw [History.perform_clock] at next
          rw [List.foldl_cons, next]
          simp only [Undisturbed, early, disturbs, not_false_eq_true, forall_const, true_and]
      · have started : course.start ≤ history.state.clock := by omega
        have stays := run_induction (Begun course.generation [course.start])
          (fun _history occurrence before => before.extend occurrence)
          (keeps.begun positive started) (operation :: operations)
        have later := clock_le history (operation :: operations)
        rw [stays.records, if_pos ⟨by omega, undisturbed_of_le started _⟩]

/-- What is heard of a trigger that nothing disturbs before its end. -/
theorem Keeps.heard {history : History World PlanNote Plan PlanState}
    (keeps : course.Keeps history)
    (debounce : course.settings.debounce = some (.ticks course.debounce))
    (positive : 0 < course.debounce) {operations : List (Operation Plan)}
    (undisturbed : Undisturbed course.key course.stop history.state.clock operations)
    (past : course.stop ≤
      (operations.foldl (History.perform (planned World)) history).state.clock) :
    recordsFor course.generation
        (operations.foldl (History.perform (planned World)) history).ledger =
      course.opening ++ course.ending := by
  induction operations generalizing history with
  | nil => exact (keeps.ended positive past).records
  | cons operation operations ih =>
      by_cases early : history.state.clock < course.stop
      · have apart := undisturbed.1 early
        have rest := undisturbed.2
        rw [← History.perform_clock] at rest
        exact ih (keeps.perform debounce positive apart) rest past
      · have stays := run_induction (Over course.generation (course.opening ++ course.ending))
          (fun _history occurrence before => before.extend _ occurrence)
          (keeps.ended positive (by omega)) (operation :: operations)
        exact stays.records

/-! ### Between operations -/

/-- What is known of every session between the operations of a script. -/
structure Between (settings : Settings) (history : History World PlanNote Plan PlanState) :
    Prop where
  sound : Sound settings history
  registered : Registered history.state
  still : Still history.state
  unclosed : history.Unclosed

theorem Between.perform {settings : Settings}
    {history : History World PlanNote Plan PlanState} (between : Between settings history)
    (operation : Operation Plan) :
    Between settings (history.perform (planned World) operation) := by
  have both := History.perform_induction
    (fun next : History World PlanNote Plan PlanState =>
      Sound settings next ∧ Registered next.state)
    (fun _history occurrence before =>
      ⟨before.1.extend (planned World).toBehaviour occurrence,
        before.2.extend before.1 (planned World).toBehaviour occurrence⟩)
    ⟨between.sound, between.registered⟩ operation
  exact ⟨both.1, both.2,
    History.perform_still between.sound between.registered between.still operation,
    between.unclosed.perform operation⟩

theorem Between.run {settings : Settings} {history : History World PlanNote Plan PlanState}
    (between : Between settings history) (operations : List (Operation Plan)) :
    Between settings (operations.foldl (History.perform (planned World)) history) := by
  induction operations generalizing history with
  | nil => exact between
  | cons operation operations ih => exact ih (between.perform operation)

theorem between_begin {settings : Settings} (world : World)
    (debounced : settings.debounce ≠ some (.ticks 0)) :
    Between settings (History.begin settings world) where
  sound := sound_begin settings world
  registered := by
    intro key generation found
    cases found
  still := still_of_settled debounced rfl
  unclosed := rfl

theorem Between.latest_of_clock {settings : Settings}
    {history : History World PlanNote Plan PlanState} (between : Between settings history)
    {operations : List (Operation Plan)}
    (atOnce : (operations.foldl (History.perform (planned World)) history).state.clock =
      history.state.clock) (key : String) :
    (operations.foldl (History.perform (planned World)) history).state.latest key =
      history.state.latest key := by
  induction operations generalizing history with
  | nil => rfl
  | cons operation operations ih =>
      have moved := History.perform_clock history operation
      have later := clock_le (history.perform (planned World) operation) operations
      rw [List.foldl_cons] at atOnce ⊢
      have none : operation.ticks = 0 := by omega
      have silent : Unheard history.state
          (history.perform (planned World) operation).state := by
        apply History.perform_unheard between.still
        intro ticks passes
        rw [passes] at none
        cases none
      rw [ih (between.perform operation) (by omega), silent.latest]

/-- As long as nothing disturbs a trigger, the latest result of its key is what came of it. -/
theorem Keeps.latest_kept {settings : Settings}
    {history : History World PlanNote Plan PlanState} (between : Between settings history)
    (keeps : course.Keeps history)
    (debounce : course.settings.debounce = some (.ticks course.debounce))
    (positive : 0 < course.debounce) {operations : List (Operation Plan)}
    (undisturbed : Undisturbed course.key
      (operations.foldl (History.perform (planned World)) history).state.clock
      history.state.clock operations)
    (past : course.stop ≤
      (operations.foldl (History.perform (planned World)) history).state.clock) :
    (operations.foldl (History.perform (planned World)) history).state.latest course.key =
      course.kept := by
  induction operations generalizing history with
  | nil =>
      rw [List.foldl_nil] at past ⊢
      have later : course.start ≤ course.stop := Nat.le_add_right _ _
      rcases keeps.progress positive with ⟨early, _⟩ | ⟨_, early, _⟩ | ⟨_, _, latest, _⟩
      · omega
      · omega
      · exact latest
  | cons operation operations ih =>
      have later := clock_le history (operation :: operations)
      by_cases early : history.state.clock <
          ((operation :: operations).foldl (History.perform (planned World)) history).state.clock
      · have apart := undisturbed.1 early
        have rest := undisturbed.2
        rw [← History.perform_clock] at rest
        exact ih (between.perform operation) (keeps.perform debounce positive apart) rest past
      · have same : ((operation :: operations).foldl (History.perform (planned World))
            history).state.clock = history.state.clock := by omega
        have start : course.start ≤ course.stop := Nat.le_add_right _ _
        rw [between.latest_of_clock same]
        rcases keeps.progress positive with ⟨before, _⟩ | ⟨_, before, _⟩ | ⟨_, _, latest, _⟩
        · omega
        · omega
        · exact latest

/-! ### The trigger itself -/

def ofTrigger (history : History World PlanNote Plan PlanState)
    (calm : history.state.settings.Calm) (debounce : Nat) (key : String) (plan : Plan) : Course :=
  { settings := history.state.settings
    calm
    debounce
    key
    generation := history.state.registry.nextGeneration
    plan
    clock := history.state.clock
    latest := history.state.latest key }

theorem placesOf_fresh {settings : Settings}
    {history : History World PlanNote Plan PlanState} (sound : Sound settings history) :
    history.state.placesOf history.state.registry.nextGeneration = [] := by
  rw [List.eq_nil_iff_forall_not_mem]
  intro place member
  obtain ⟨entry, present, named, _shows⟩ := State.exists_entry member
  have issued := sound.issued entry present
  omega

theorem recordsFor_fresh {settings : Settings}
    {history : History World PlanNote Plan PlanState} (sound : Sound settings history) :
    recordsFor history.state.registry.nextGeneration history.ledger = [] := by
  unfold recordsFor
  rw [List.filter_eq_nil_iff]
  intro record member named
  rw [beq_iff_eq] at named
  obtain ⟨entry, present, same⟩ := sound.recorded record member
  have issued := sound.issued entry present
  omega

theorem placesOf_schedule {settings : Settings}
    {history : History World PlanNote Plan PlanState} (sound : Sound settings history)
    (registered : Registered history.state) (calm : history.state.settings.Calm) (debounce : Nat)
    (key : String) (plan : Plan) :
    (history.state.schedule key plan).placesOf history.state.registry.nextGeneration =
      [.queued ((ofTrigger history calm debounce key plan).task .scheduled) .elapsed] := by
  have sameNext := (State.supersede_quiet history.state key).nextGeneration
  rw [List.length_nil, Int.natCast_zero, Int.add_zero] at sameNext
  have other : history.state.registry.tasks.get? key ≠
      some history.state.registry.nextGeneration := by
    intro found
    have issued := (registered key _ found).1
    omega
  have before := history.state.supersede_places other
  rw [placesOf_fresh sound] at before
  unfold State.placesOf at before
  rw [List.append_eq_nil_iff, List.append_eq_nil_iff] at before
  obtain ⟨⟨queued, asleep⟩, ended⟩ := before
  change ((history.state.supersede key).ready ++ [Item.task _ _]).filterMap _ ++
    (history.state.supersede key).sleeping.filterMap _ ++
      (history.state.supersede key).finished.filterMap _ = _
  rw [List.filterMap_append, queued, asleep, ended, List.nil_append, List.append_nil,
    List.append_nil, List.filterMap_cons, List.filterMap_nil]
  simp only [Item.place?, Token.issue, sameNext, if_pos]
  rfl

theorem Between.keeps {settings : Settings} {history : History World PlanNote Plan PlanState}
    (between : Between settings history) (calm : history.state.settings.Calm) (debounce : Nat)
    (key : String) {source : Path} (plan : Plan) (accepted : State.accepts source = true) :
    (ofTrigger history calm debounce key plan).Keeps
      (history.perform (planned World) (.trigger key source plan)) := by
  have unclosed := between.unclosed.perform (.trigger key source plan)
  rw [History.perform_trigger] at unclosed ⊢
  have scheduled : (history.extend (planned World).toBehaviour
      (.trigger key source plan)).state = history.state.schedule key plan := by
    rw [History.extend_state, State.occur, State.trigger, if_pos accepted]
  have quiet := State.schedule_quiet history.state key plan
  have places := placesOf_schedule between.sound between.registered calm debounce key plan
  refine
    { settings := ?_
      issued := ?_
      current := ?_
      owned := ?_
      stands := ⟨.queued ((ofTrigger history calm debounce key plan).task .scheduled) .elapsed, ?_, ?_⟩
      unclosed := unclosed
      rested := ?_ }
  · rw [scheduled]
    exact quiet.settings
  · rw [scheduled, quiet.nextGeneration]
    exact Int.lt_add_of_pos_right _ (by simp)
  · rw [scheduled]
    have named : (ofTrigger history calm debounce key plan).token.key = key := rfl
    unfold Registry.isCurrent
    rw [State.tokens_schedule, if_pos named]
    simp [ofTrigger, token, Token.issue]
  · intro other found
    rw [scheduled, State.tasks_schedule] at found
    by_cases same : other = key
    · exact same
    · rw [if_neg same] at found
      have issued := (between.registered other _ found).1
      exact absurd issued (Int.lt_irrefl _)
  · rw [scheduled]
    exact places
  · have silent : (history.extend (planned World).toBehaviour
        (.trigger key source plan)).ledger = history.ledger := List.append_nil _
    have clock := history.state.supersede_clock key
    rw [scheduled, silent]
    change Stands _ _ (history.state.supersede key).clock
      (recordsFor history.state.registry.nextGeneration history.ledger)
      ((history.state.schedule key plan).registry.results.get? key)
    rw [clock.1, recordsFor_fresh between.sound, quiet.results]
    exact .scheduled
  · intro task wake queued
    rw [scheduled] at queued
    change _ ∈ State.placesOf _ history.state.registry.nextGeneration at queued
    rw [places, List.mem_singleton, Place.queued.injEq] at queued
    rw [queued.1]
    rfl

end Course

/-! ### The schedule -/

/-- Where planned correlations are debounced, a trigger that is accepted starts its correlation just
once, at the tick when its debounce is over, if no later trigger of its key, no cancelling of it and
no closing comes before that tick, and never otherwise. If none of these comes before the end of the
plan either, then what is said of the trigger is its start and, at that tick, its outcome, and the
latest result of its key is the one of the plan, or if the plan has none, what it was before. -/
theorem starts_when_debounced {debounce : Nat} (positive : 1 ≤ debounce) (statuses results : Bool)
    (world : World) (earlier later : List (Operation Plan)) (key : String) {source : Path}
    (plan : Plan) (accepted : State.accepts source = true) :
    let settings := Settings.recording (some (.ticks debounce)) statuses results
    let before := History.ofScript (planned World) settings world earlier
    let after := History.ofScript (planned World) settings world
      (earlier ++ .trigger key source plan :: later)
    let generation := before.state.registry.nextGeneration
    let start := before.state.clock + debounce
    let stop := start + plan.duration
    startsIn (recordsFor generation after.ledger) =
        (if start ≤ after.state.clock ∧ Undisturbed key start before.state.clock later
          then [start] else []) ∧
      (stop ≤ after.state.clock → Undisturbed key stop before.state.clock later →
        recordsFor generation after.ledger =
          recordsOf generation start [begun, .note (.started plan.name generation)] ++
            recordsOf generation stop (plan.conclusion.said key)) ∧
      (stop ≤ after.state.clock → Undisturbed key after.state.clock before.state.clock later →
        after.state.latest key = plan.conclusion.kept (before.state.latest key)) := by
  intro settings before after generation start stop
  have set : settings.debounce = some (.ticks debounce) := rfl
  have debounced : settings.debounce ≠ some (.ticks 0) := by
    rw [set]
    intro same
    rw [Option.some.injEq, Span.ticks.injEq] at same
    omega
  have between : Course.Between settings before := by
    have run := (Course.between_begin world debounced).run earlier
    rw [← History.ofScript_eq_foldl] at run
    exact run
  have calm : before.state.settings.Calm :=
    between.sound.configured ▸ Settings.recording_calm _ statuses results
  have triggered := between.perform (.trigger key source plan)
  have keeps := between.keeps calm debounce key plan accepted
  have configured : (Course.ofTrigger before calm debounce key plan).settings.debounce =
      some (.ticks debounce) := by
    rw [← set, ← between.sound.configured]
    rfl
  have clock : (before.perform (planned World) (.trigger key source plan)).state.clock =
      before.state.clock := History.perform_clock before _
  have whole : after = later.foldl (History.perform (planned World))
      (before.perform (planned World) (.trigger key source plan)) := by
    simp only [after, before, History.ofScript_eq_foldl, List.foldl_append, List.foldl_cons]
  refine ⟨?_, ?_, ?_⟩
  · have starts := keeps.starts configured positive later
    rw [clock, ← whole] at starts
    exact starts
  · intro past undisturbed
    rw [whole] at past ⊢
    rw [← clock] at undisturbed
    exact keeps.heard configured positive undisturbed past
  · intro past undisturbed
    rw [whole] at past undisturbed ⊢
    rw [← clock] at undisturbed
    exact keeps.latest_kept triggered configured positive undisturbed past

/-- Another key is triggered before the start of a correlation, and its own is cancelled after its
end. -/
theorem starts_when_debounced_once :
    let settings := Settings.recording (some (.ticks 2)) true true
    let source : Path := { root := "", parts := ["a.c"] }
    let plan : Plan :=
      { name := "first", delay := .ticks 1, ending := .failure .emptyPalette, afterCancel := none }
    let later : List (Operation Plan) :=
      [.advance 1, .trigger "b" source plan, .advance 4, .cancel "a"]
    ∃ after, after = History.ofScript (planned Unit) settings ()
        ([.advance 1] ++ .trigger "a" source plan :: later) ∧
      startsIn (recordsFor 1 after.ledger) = [3] ∧
      recordsFor 1 after.ledger =
        recordsOf 1 3 [begun, .note (.started "first" 1)] ++
          recordsOf 1 4 [failing .emptyPalette] ∧
      after.state.latest "a" = none := by
  intro settings source plan later
  obtain ⟨before, earlier⟩ : ∃ before, before = History.ofScript (planned Unit)
    (Settings.recording (some (.ticks 2)) true true) () [.advance 1] := ⟨_, rfl⟩
  obtain ⟨after, whole⟩ : ∃ after, after = History.ofScript (planned Unit)
    (Settings.recording (some (.ticks 2)) true true) ()
    ([.advance 1] ++ .trigger "a" source plan :: later) := ⟨_, rfl⟩
  have accepted : State.accepts source = true := by decide +kernel
  have clock : before.state.clock = 1 := by
    rw [earlier]
    decide +kernel
  have generation : before.state.registry.nextGeneration = 1 := by
    rw [earlier]
    decide +kernel
  have latest : before.state.latest "a" = none := by
    rw [earlier]
    decide +kernel
  have ends : after.state.clock = 6 := by
    rw [whole]
    decide +kernel
  have started : Undisturbed "a" 3 1 later := by decide +kernel
  have ended : Undisturbed "a" 4 1 later := by decide +kernel
  have kept : Undisturbed "a" 6 1 later := by decide +kernel
  have positive : 1 ≤ 2 := by decide
  obtain ⟨starts, heard, result⟩ :=
    starts_when_debounced positive true true () [.advance 1] later "a" plan accepted
  rw [← earlier, ← whole, clock, generation, ends] at starts
  rw [← earlier, ← whole, clock, generation, ends] at heard
  rw [← earlier, ← whole, clock, latest, ends] at result
  rw [if_pos ⟨by decide, started⟩] at starts
  exact ⟨after, whole, starts, heard (by decide) ended, result (by decide) kept⟩

end ListingAtlas.Session
