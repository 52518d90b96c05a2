import ListingAtlas.Proofs.Session.InFlight

/-!
What an occurrence does to the tasks that have not ended, to the world and to the status. Calls and
time leave world and status alone, and every task as it is, wherever they put it; and a turn is that
of one task, whose correlator decides what follows.
-/

namespace ListingAtlas.Session

variable {World Note Request Inner : Type}

section

variable {behaviour : Behaviour World Note Request Inner}
  {state : State World Note Request Inner} {task : Task Request Inner}
  {place : Place Request Inner}

theorem Seats.of_waiting {other : Task Request Inner} {clock : Nat} {ticks : Option Nat}
    (seats : Seats state other (.waiting clock task ticks)) : other = task := by
  rcases Place.waiting_own clock task ticks with ⟨wake, same⟩ | ⟨due, same⟩
  · rw [same] at seats
    cases seats
    rfl
  · rw [same] at seats
    cases seats
    rfl

/-! ### Calls and time -/

theorem seats_supersede {key : String} (seats : Seats (state.supersede key) task place) :
    ∃ former, Seats state task former := by
  obtain ⟨registry, _tasks, ⟨_none, same⟩ | ⟨generation, _some, same⟩⟩ :=
    state.supersede_cases key
  · rw [same] at seats
    exact ⟨place, seats.of_sublist (List.Sublist.refl _) (List.Sublist.refl _)⟩
  · rw [same] at seats
    rcases seats_cancelTask seats with ⟨kept, _other⟩ | ⟨_named, _asked, former, kept⟩
    · exact ⟨place, kept.of_sublist (List.Sublist.refl _) (List.Sublist.refl _)⟩
    · exact ⟨former, kept.of_sublist (List.Sublist.refl _) (List.Sublist.refl _)⟩

theorem seats_cancelKeys {keys : List String}
    (seats : Seats (keys.foldl State.cancelKey state) task place) :
    ∃ former, Seats state task former := by
  induction keys generalizing state with
  | nil => exact ⟨place, seats⟩
  | cons key keys ih =>
      obtain ⟨former, kept⟩ := ih seats
      exact seats_supersede (kept.of_sublist (List.Sublist.refl _) (List.Sublist.refl _))

theorem seats_beginClosing (seats : Seats state.beginClosing task place) :
    ∃ former, Seats state task former :=
  seats_cancelKeys (seats.of_sublist (List.Sublist.refl _) (List.Sublist.refl _))

/-- A task that was not there before is the one that a trigger has scheduled. -/
theorem seats_schedule {key : String} {request : Request}
    (seats : Seats (state.schedule key request) task place) :
    (∃ former, Seats state task former) ∨
      task =
        { token := Token.issue key state.registry.nextGeneration
          request
          stage := .scheduled } := by
  have next := (State.supersede_quiet state key).nextGeneration
  rw [List.length_nil, Int.natCast_zero, Int.add_zero] at next
  cases seats with
  | queued present =>
      rcases List.mem_append.mp present with kept | new
      · exact Or.inl (seats_supersede (.queued kept))
      · rw [List.mem_singleton, Item.task.injEq, next] at new
        exact Or.inr new.1
  | asleep present => exact Or.inl (seats_supersede (.asleep present))

namespace State

theorem supersede_world (state : State World Note Request Inner) (key : String) :
    (state.supersede key).world = state.world ∧ (state.supersede key).status = state.status := by
  obtain ⟨registry, _tasks, ⟨_none, same⟩ | ⟨generation, _some, same⟩⟩ :=
    state.supersede_cases key <;> rw [same] <;> exact ⟨rfl, rfl⟩

theorem cancelKeys_world (state : State World Note Request Inner) (keys : List String) :
    (keys.foldl cancelKey state).world = state.world ∧
      (keys.foldl cancelKey state).status = state.status := by
  induction keys generalizing state with
  | nil => exact ⟨rfl, rfl⟩
  | cons key keys ih =>
      have others := ih (state.cancelKey key)
      have first := state.supersede_world key
      exact ⟨others.1.trans first.1, others.2.trans first.2⟩

/-- What is neither a turn of a task nor from outside the session. -/
structure Steady (before after : State World Note Request Inner)
    (occurrence : Occurrence World Request) : Prop where
  world : after.world = before.world
  status : after.status = before.status
  seats : ∀ task place, Seats after task place →
    (∃ former, Seats before task former) ∨
      ∃ key source request, occurrence = .trigger key source request ∧
        accepts source = true ∧ task =
          { token := Token.issue key before.registry.nextGeneration
            request
            stage := .scheduled }

theorem occur_steady (behaviour : Behaviour World Note Request Inner)
    {occurrence : Occurrence World Request} (inTurn : occurrence.InTurn state)
    (silent : speaker? state occurrence = none) (inside : ∀ world, occurrence ≠ .outside world) :
    Steady state (state.occur behaviour occurrence) occurrence := by
  cases occurrence with
  | trigger key source request =>
      simp only [occur, trigger]
      split
      · rename_i accepted
        have same := state.supersede_world key
        refine ⟨same.1, same.2, fun task place seats => ?_⟩
        exact (seats_schedule seats).imp_right fun new =>
          ⟨key, source, request, rfl, accepted, new⟩
      · exact ⟨rfl, rfl, fun task place seats => Or.inl
          ⟨place, seats.of_sublist (List.Sublist.refl _) (List.Sublist.refl _)⟩⟩
  | cancel key =>
      have same := state.supersede_world key
      exact ⟨same.1, same.2, fun task place seats => Or.inl
        (seats_supersede (seats.of_sublist (List.Sublist.refl _) (List.Sublist.refl _)))⟩
  | forget key => cases inTurn
  | close =>
      have same := state.cancelKeys_world state.registry.tokens.keys
      exact ⟨same.1, same.2, fun task place seats => Or.inl (seats_beginClosing seats)⟩
  | queueClose =>
      exact ⟨rfl, rfl, fun task place seats => Or.inl ⟨place, seats.of_closing_queued⟩⟩
  | turn position =>
      rcases state.occur_turn_cases behaviour position with
        ⟨_found, same⟩ | ⟨_found, same⟩ | ⟨task, wake, found, _same⟩
      · rw [same]
        exact ⟨rfl, rfl, fun task place seats => Or.inl ⟨place, seats⟩⟩
      · rw [same]
        have kept := (state.taken position).cancelKeys_world state.registry.tokens.keys
        refine ⟨kept.1, kept.2, fun task place seats => Or.inl ?_⟩
        obtain ⟨former, before⟩ := seats_beginClosing seats
        exact ⟨former, before.of_sublist (List.eraseIdx_sublist _ _) (List.Sublist.refl _)⟩
      · simp only [speaker?, found] at silent
        cases silent
  | wake position => cases inTurn
  | tick =>
      refine ⟨rfl, rfl, fun task place seats => Or.inl ?_⟩
      obtain ⟨due, kept, _later⟩ := seats_tick inTurn seats
      exact ⟨_, kept⟩
  | outside world => exact absurd rfl (inside world)

end State

/-! ### Turns -/

/-- The status that comes with an ending, if the task is current. -/
def Ending.status? : Ending → Option Status
  | .cancelled => none
  | .wordless _ _ => none
  | .failure cause => some (statusAfter cause).1
  | .result correlation => some (statusWith correlation)

/-- The status after a stretch. -/
def Move.statusFrom (current : Bool) (status : Status) : Move Inner → Status
  | .wait _ _ => status
  | .finish ending => if current then ending.status?.getD status else status

/-- A turn of a task. -/
inductive Turned (behaviour : Behaviour World Note Request Inner)
    (before after : State World Note Request Inner) (task : Task Request Inner) (wake : Wake) :
    Prop
  /-- The correlator is not called. -/
  | early (stage : ∀ inner, task.stage ≠ .correlating inner) (world : after.world = before.world)
      (status : after.status = before.status)
      (seats : ∀ other place, Seats after other place →
        Seats before other place ∨ other = { task with stage := .debouncing })
  /-- Something escapes when the start is told. -/
  | interrupted (raised : before.raised? begun ≠ none) (stage : task.stage = .debouncing)
      (elapsed : wake = .elapsed) (world : after.world = before.world)
      (seats : ∀ other place, Seats after other place → Seats before other place)
  | start (place : Place Request Inner) (moved : Moved before after task.token place)
      (stage : task.stage = .debouncing) (elapsed : wake = .elapsed)
      (current : before.registry.isCurrent task.token = true)
      (led : Led before.clock task
        (behaviour.start before.world task.request task.token).move place)
      (world : after.world = (behaviour.start before.world task.request task.token).world)
      (status : after.status =
        (behaviour.start before.world task.request task.token).move.statusFrom true .recompiling)
  | resume (place : Place Request Inner) (moved : Moved before after task.token place)
      (inner : Inner) (stage : task.stage = .correlating inner)
      (led : Led before.clock task (behaviour.resume before.world inner wake).move place)
      (world : after.world = (behaviour.resume before.world inner wake).world)
      (status : after.status = (behaviour.resume before.world inner wake).move.statusFrom
        (before.registry.isCurrent task.token) before.status)

namespace State

theorem fail_status (state : State World Note Request Inner) (token : Token) (cause : Failure) :
    (state.fail token cause).world = state.world ∧
      (state.fail token cause).status =
        (Move.finish (.failure cause) : Move Inner).statusFrom
          (state.registry.isCurrent token) state.status := by
  by_cases current : state.registry.isCurrent token = true
  · obtain ⟨outcome, _nothing, _silent, same⟩ := exists_fail current cause
    rw [same, current]
    exact ⟨rfl, rfl⟩
  · rw [fail_stale _ _ _ current, eq_false_of_ne_true current]
    exact ⟨rfl, rfl⟩

theorem deliver_status (state : State World Note Request Inner) (token : Token)
    (correlation : Correlation) :
    (state.deliver token correlation).world = state.world ∧
      (state.deliver token correlation).status =
        (Move.finish (.result correlation) : Move Inner).statusFrom
          (state.registry.isCurrent token) state.status := by
  by_cases current : state.registry.isCurrent token = true
  · obtain ⟨outcome, said, _kept, _silent, _whole, _word, _told, same⟩ :=
      exists_deliver current correlation
    rw [same, current]
    exact ⟨rfl, rfl⟩
  · rw [deliver_stale _ _ _ current, eq_false_of_ne_true current]
    exact ⟨rfl, rfl⟩

theorem advanceBy_status (state : State World Note Request Inner) (task : Task Request Inner)
    (progress : Progress World Note Inner) :
    (state.advanceBy task progress).world = progress.world ∧
      (state.advanceBy task progress).status =
        progress.move.statusFrom (state.registry.isCurrent task.token) state.status := by
  cases move : progress.move with
  | wait ticks inner =>
      rw [advanceBy_wait state task progress move, wait_eq]
      exact ⟨rfl, rfl⟩
  | finish ending =>
      cases ending with
      | cancelled =>
          rw [advanceBy_cancelled state task progress move]
          refine ⟨rfl, ?_⟩
          cases state.registry.isCurrent task.token <;> rfl
      | wordless isExpected escape =>
          rw [advanceBy_wordless state task progress move]
          refine ⟨rfl, ?_⟩
          cases state.registry.isCurrent task.token <;> rfl
      | failure cause =>
          rw [advanceBy_failure state task progress move]
          exact fail_status (state.noted progress) task.token cause
      | result correlation =>
          rw [advanceBy_result state task progress move]
          exact deliver_status (state.noted progress) task.token correlation

theorem wait_turned {behaviour : Behaviour World Note Request Inner} (wake : Wake)
    (stage : ∀ inner, task.stage ≠ .correlating inner) (ticks : Option Nat) :
    Turned behaviour state (state.wait { task with stage := .debouncing } ticks) task wake := by
  have moved := state.wait_moved { task with stage := .debouncing } ticks
  refine .early stage ?_ ?_ ?_
  · rw [wait_eq]
  · rw [wait_eq]
  · intro other place seats
    refine (moved.seats seats).imp_right fun put => ?_
    rw [put] at seats
    exact seats.of_waiting

theorem finish_turned {behaviour : Behaviour World Note Request Inner} (wake : Wake)
    (stage : ∀ inner, task.stage ≠ .correlating inner) (outcome : Outcome) :
    Turned behaviour state (state.finish task.token outcome) task wake :=
  .early stage rfl rfl fun _other _place seats =>
    Or.inl (seats.of_sublist (List.Sublist.refl _) (List.Sublist.refl _))

/-- The call of a task that is current, at the end of its debounce, if nothing escapes when that is
told. -/
theorem runTask_start (behaviour : Behaviour World Note Request Inner)
    (state : State World Note Request Inner) (task : Task Request Inner)
    (stage : task.stage = .debouncing) (current : state.registry.isCurrent task.token = true)
    (silent : state.raised? begun = none) :
    ∃ place, Led state.clock task (behaviour.start state.world task.request task.token).move place ∧
      Moved state (runTask behaviour state task .elapsed) task.token place ∧
      (runTask behaviour state task .elapsed).world =
        (behaviour.start state.world task.request task.token).world ∧
      (runTask behaviour state task .elapsed).status =
        (behaviour.start state.world task.request task.token).move.statusFrom true
          .recompiling := by
  have quiet : state.raised? (.status .recompiling (Status.recompiling.message "")) = none := silent
  simp only [runTask, stage]
  rw [if_pos current]
  simp only [tellStatus, quiet]
  let told := state.setStatus .recompiling ""
  obtain ⟨place, led, moved⟩ := advanceBy_moved told task
    (behaviour.start state.world task.request task.token)
  have status := advanceBy_status told task (behaviour.start state.world task.request task.token)
  have known : told.registry.isCurrent task.token = true := current
  rw [known] at status
  exact ⟨place, led, ⟨moved.ready, moved.sleeping, moved.finished⟩, status⟩

/-- Something that escapes when the start is told keeps the correlator from being called. -/
theorem runTask_interrupted {behaviour : Behaviour World Note Request Inner}
    (stage : task.stage = .debouncing) (current : state.registry.isCurrent task.token = true)
    (raised : state.raised? begun ≠ none) :
    Turned behaviour state (runTask behaviour state task .elapsed) task .elapsed := by
  obtain ⟨escape, escaped⟩ := Option.ne_none_iff_exists'.mp raised
  have known : state.raised? (.status .recompiling (Status.recompiling.message "")) =
      some escape := escaped
  simp only [runTask, stage]
  rw [if_pos current]
  simp only [tellStatus, known]
  exact .interrupted raised stage rfl rfl fun _other _place seats =>
    seats.of_sublist (List.Sublist.refl _) (List.Sublist.refl _)

theorem runTask_turned (behaviour : Behaviour World Note Request Inner)
    (state : State World Note Request Inner) (task : Task Request Inner) (wake : Wake) :
    Turned behaviour state (runTask behaviour state task wake) task wake := by
  cases stage : task.stage with
  | scheduled =>
      have early (inner : Inner) : task.stage ≠ .correlating inner := by
        rw [stage]
        simp
      cases wake with
      | cancelled =>
          simp only [runTask, stage]
          exact finish_turned .cancelled early .cancelled
      | elapsed =>
          simp only [runTask, stage, debounce]
          split
          · exact wait_turned .elapsed early none
          · exact wait_turned .elapsed early (some _)
          · exact finish_turned .elapsed early _
  | debouncing =>
      have early (inner : Inner) : task.stage ≠ .correlating inner := by
        rw [stage]
        simp
      cases wake with
      | cancelled =>
          simp only [runTask, stage]
          exact finish_turned .cancelled early .cancelled
      | elapsed =>
          by_cases current : state.registry.isCurrent task.token = true
          · by_cases silent : state.raised? begun = none
            · obtain ⟨place, led, moved, world, status⟩ :=
                runTask_start behaviour state task stage current silent
              exact .start place moved stage rfl current led world status
            · exact runTask_interrupted stage current silent
          · simp only [runTask, stage]
            rw [if_neg current]
            exact finish_turned .elapsed early _
  | correlating inner =>
      simp only [runTask, stage]
      obtain ⟨place, led, moved⟩ := advanceBy_moved state task
        (behaviour.resume state.world inner wake)
      have told := advanceBy_status state task (behaviour.resume state.world inner wake)
      exact .resume place moved inner stage led told.1 told.2

end State

end

end ListingAtlas.Session
