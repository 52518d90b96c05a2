import ListingAtlas.Proofs.Session.InFlight
import ListingAtlas.Proofs.Session.Seats

/-!
Sessions that are driven by hand, turn by turn and tick by tick. What the queue holds, who sleeps,
what time it is and what the world is like are known at each step.
-/

namespace ListingAtlas.Session

variable {World Note Request Inner : Type}

section

variable {behaviour : Behaviour World Note Request Inner} {settings : Settings}

/-- States that turns of whoever stands first, and ticks, do not lead out of. -/
structure Drive (behaviour : Behaviour World Note Request Inner) (settings : Settings) where
  reach : State World Note Request Inner → Prop
  configured : ∀ {state}, reach state → state.settings = settings
  turn : ∀ {state}, reach state → reach (state.occur behaviour (.turn 0))
  tick : ∀ {state}, reach state → state.ready = [] → reach state.tick

/-- Whether a session can get to a state where just these are ready and asleep, the world is such,
and a token is the newest of its key. -/
def Arises (drive : Drive behaviour settings) (ready : List (Item Request Inner))
    (sleeping : List (Sleeper Request Inner)) (clock : Nat) (newest : Token) (world : World) :
    Prop :=
  ∃ state, drive.reach state ∧ state.ready = ready ∧ state.sleeping = sleeping ∧
    state.clock = clock ∧ state.Counts newest ∧ state.registry.isCurrent newest = true ∧
    state.world = world

variable {drive : Drive behaviour settings} {ready : List (Item Request Inner)}
  {sleeping : List (Sleeper Request Inner)} {clock : Nat} {newest : Token} {world : World}

/-! ### Turns -/

/-- The first of the queue goes where its turn leads it. -/
theorem Arises.turn {task : Task Request Inner} {wake : Wake} {after : World}
    (arises : Arises drive (.task task wake :: ready) sleeping clock newest world)
    {place : Place Request Inner}
    (leads : ∀ state : State World Note Request Inner, state.world = world →
      state.clock = clock → state.settings = settings →
        state.registry.isCurrent newest = true →
          Moved state (State.runTask behaviour state task wake) task.token place ∧
            (State.runTask behaviour state task wake).world = after) :
    Arises drive (ready ++ place.items) (sleeping ++ place.sleepers) clock newest after := by
  obtain ⟨state, reached, first, asleep, now, counts, current, here⟩ := arises
  have configured := drive.configured reached
  have turned := drive.turn reached
  have run : state.occur behaviour (.turn 0) =
      State.runTask behaviour { state with ready } task wake :=
    State.occur_task behaviour first
  rw [run] at turned
  obtain ⟨moved, left⟩ := leads { state with ready } here now configured current
  obtain ⟨new, more, turn⟩ := State.runTask_turnOf behaviour { state with ready } task wake
  refine ⟨_, turned, moved.ready, ?_, turn.clock.trans now, ?_, ?_, left⟩
  · rw [moved.sleeping, ← asleep]
  · unfold State.Counts
    rw [turn.tasks]
    exact counts
  · rw [isCurrent_congr (congrArg (Table.get? · newest.key) turn.tokens)]
    exact current

theorem Arises.call {task : Task Request Inner} {wake : Wake} {inner next : Inner}
    {ticks : Option Nat} {after : World}
    (arises : Arises drive (.task task wake :: ready) sleeping clock newest world)
    (stage : task.stage = .correlating inner)
    (move : (behaviour.resume world inner wake).move = .wait ticks next)
    (left : (behaviour.resume world inner wake).world = after) :
    let place := Place.waiting clock { task with stage := .correlating next } ticks
    Arises drive (ready ++ place.items) (sleeping ++ place.sleepers) clock newest after := by
  apply arises.turn
  rintro state rfl rfl _configured _current
  simp only [State.runTask, stage]
  refine ⟨?_, (State.advanceBy_status state task _).1.trans left⟩
  rw [State.advanceBy_wait state task _ move]
  have moved := State.wait_moved (state.noted (behaviour.resume state.world inner wake))
    { task with stage := .correlating next } ticks
  exact ⟨moved.ready, moved.sleeping, moved.finished⟩

/-- A call that ends with its cancellation is gone. -/
theorem Arises.leave {task : Task Request Inner} {wake : Wake} {inner : Inner} {after : World}
    (arises : Arises drive (.task task wake :: ready) sleeping clock newest world)
    (stage : task.stage = .correlating inner)
    (move : (behaviour.resume world inner wake).move = .finish .cancelled)
    (left : (behaviour.resume world inner wake).world = after) :
    Arises drive ready sleeping clock newest after := by
  let place : Place Request Inner := .ended .cancelled
  have gone : Arises drive (ready ++ place.items) (sleeping ++ place.sleepers) clock newest
      after := by
    apply arises.turn
    rintro state rfl rfl _configured _current
    simp only [State.runTask, stage]
    refine ⟨?_, (State.advanceBy_status state task _).1.trans left⟩
    rw [State.advanceBy_cancelled state task _ move]
    have moved := State.finish_moved (state.noted (behaviour.resume state.world inner wake))
      task.token .cancelled
    exact ⟨moved.ready, moved.sleeping, moved.finished⟩
  simpa only [place, Place.items, Place.sleepers, List.append_nil] using gone

theorem Arises.start (calm : settings.Calm) {task : Task Request Inner} {inner : Inner}
    {ticks : Option Nat} {after : World}
    (arises : Arises drive (.task task .elapsed :: ready) sleeping clock task.token world)
    (stage : task.stage = .debouncing)
    (move : (behaviour.start world task.request task.token).move = .wait ticks inner)
    (left : (behaviour.start world task.request task.token).world = after) :
    let place := Place.waiting clock { task with stage := .correlating inner } ticks
    Arises drive (ready ++ place.items) (sleeping ++ place.sleepers) clock task.token after := by
  apply arises.turn
  rintro state rfl rfl configured current
  have silent : state.settings.Calm := configured ▸ calm
  have led : (behaviour.start (state.setStatus .recompiling "").world task.request
      task.token).move = .wait ticks inner := move
  simp only [State.runTask, stage]
  rw [if_pos current, State.tellStatus_calm silent]
  refine ⟨?_, (State.advanceBy_status _ task _).1.trans left⟩
  rw [State.advanceBy_wait _ task _ led]
  have moved (noted : State World Note Request Inner) :=
    State.wait_moved noted { task with stage := .correlating inner } ticks
  exact ⟨(moved _).ready, (moved _).sleeping, (moved _).finished⟩

theorem Arises.debounce {task : Task Request Inner} {debounce : Nat}
    (debounced : settings.debounce = some (.ticks debounce))
    (arises : Arises drive (.task task .elapsed :: ready) sleeping clock newest world)
    (stage : task.stage = .scheduled) :
    let place := Place.waiting clock { task with stage := .debouncing } (some debounce)
    Arises drive (ready ++ place.items) (sleeping ++ place.sleepers) clock newest world := by
  apply arises.turn
  rintro state rfl rfl configured _current
  have agreed : state.settings.debounce = some (.ticks debounce) := by
    rw [configured]
    exact debounced
  simp only [State.runTask, stage, State.debounce, agreed]
  refine ⟨State.wait_moved state { task with stage := .debouncing } (some debounce), ?_⟩
  rw [State.wait_eq]

/-! ### Ticks -/

theorem Arises.tick (arises : Arises drive [] sleeping clock newest world) :
    Arises drive
      ((sleeping.filter (State.isDue (clock + 1))).map fun sleeper => .task sleeper.task .elapsed)
      (sleeping.filter fun sleeper => !State.isDue (clock + 1) sleeper) (clock + 1) newest world := by
  obtain ⟨state, reached, settled, rfl, rfl, counts, current, here⟩ := arises
  exact ⟨_, drive.tick reached settled, state.ready_tick settled, state.sleeping_tick, rfl,
    counts, current, here⟩

/-- Time passes until somebody is due. -/
theorem Arises.wait {stop : Nat}
    (arises : Arises drive [] sleeping clock newest world) (later : clock < stop)
    (asleep : ∀ sleeper ∈ sleeping, ∀ due, sleeper.due = some due → stop ≤ due) :
    Arises drive
      ((sleeping.filter (State.isDue stop)).map fun sleeper => .task sleeper.task .elapsed)
      (sleeping.filter fun sleeper => !State.isDue stop sleeper) stop newest world := by
  obtain ⟨ticks, rfl⟩ := Nat.exists_eq_add_of_lt later
  induction ticks generalizing clock with
  | zero => exact arises.tick
  | succ ticks ih =>
      have early (sleeper : Sleeper Request Inner) (member : sleeper ∈ sleeping) :
          State.isDue (clock + 1) sleeper = false := by
        cases due : sleeper.due with
        | none => simp only [State.isDue, due]
        | some stop =>
            have bound := asleep sleeper member stop due
            simp only [State.isDue, due, decide_eq_false_iff_not]
            omega
      have ticked := arises.tick
      rw [List.filter_eq_nil_iff.mpr fun sleeper member => by
          rw [early sleeper member]
          exact Bool.false_ne_true,
        List.filter_eq_self.mpr fun sleeper member => by
          rw [early sleeper member]
          rfl] at ticked
      have same : clock + 1 + ticks + 1 = clock + (ticks + 1) + 1 := by omega
      rw [← same] at asleep ⊢
      exact ih ticked (by omega) asleep

section

variable {one other : Task Request Inner} {stop : Nat} {due : Option Nat}

theorem isDue_of_eq : State.isDue stop ⟨one, some stop⟩ = true := decide_eq_true (Nat.le_refl stop)

theorem not_isDue (late : ∀ next, due = some next → stop < next) :
    State.isDue stop ⟨other, due⟩ = false := by
  cases due with
  | none => rfl
  | some next => exact decide_eq_false (Nat.not_le_of_lt (late next rfl))

/-- Time passes for two until one of them is due. -/
theorem Arises.wait_two {first second : Sleeper Request Inner}
    (arises : Arises drive [] [first, second] clock newest world) (later : clock < stop)
    (early : ∀ due, first.due = some due → stop ≤ due)
    (earlyToo : ∀ due, second.due = some due → stop ≤ due) :
    Arises drive
      (([first, second].filter (State.isDue stop)).map fun sleeper => .task sleeper.task .elapsed)
      ([first, second].filter fun sleeper => !State.isDue stop sleeper) stop newest world :=
  arises.wait later
    (List.forall_mem_cons.mpr ⟨early, List.forall_mem_singleton.mpr earlyToo⟩)

theorem Arises.wake_first
    (arises : Arises drive [] [⟨one, some stop⟩, ⟨other, due⟩] clock newest world)
    (later : clock < stop) (late : ∀ next, due = some next → stop < next) :
    Arises drive [.task one .elapsed] [⟨other, due⟩] stop newest world := by
  have woken := arises.wait_two later (fun _next same => Nat.le_of_eq (Option.some.inj same))
    (fun next same => Nat.le_of_lt (late next same))
  simp only [List.filter_cons, List.filter_nil, isDue_of_eq, not_isDue late, Bool.not_true,
    Bool.not_false, Bool.false_eq_true, if_true, if_false, List.map_cons, List.map_nil] at woken
  exact woken

theorem Arises.wake_second
    (arises : Arises drive [] [⟨other, due⟩, ⟨one, some stop⟩] clock newest world)
    (later : clock < stop) (late : ∀ next, due = some next → stop < next) :
    Arises drive [.task one .elapsed] [⟨other, due⟩] stop newest world := by
  have woken := arises.wait_two later (fun next same => Nat.le_of_lt (late next same))
    (fun _next same => Nat.le_of_eq (Option.some.inj same))
  simp only [List.filter_cons, List.filter_nil, isDue_of_eq, not_isDue late, Bool.not_true,
    Bool.not_false, Bool.false_eq_true, if_true, if_false, List.map_cons, List.map_nil] at woken
  exact woken

/-- Two that are due at one tick wake in the order in which they fell asleep. -/
theorem Arises.wake_both
    (arises : Arises drive [] [⟨one, some stop⟩, ⟨other, some stop⟩] clock newest world)
    (later : clock < stop) :
    Arises drive [.task one .elapsed, .task other .elapsed] [] stop newest world := by
  have woken := arises.wait_two later (fun _next same => Nat.le_of_eq (Option.some.inj same))
    (fun _next same => Nat.le_of_eq (Option.some.inj same))
  simp only [List.filter_cons, List.filter_nil, isDue_of_eq, Bool.not_true, Bool.false_eq_true,
    if_true, if_false, List.map_cons, List.map_nil] at woken
  exact woken

end

/-- Whoever waits alone comes into the queue in time. -/
theorem Arises.alone {task : Task Request Inner} {ticks : Nat}
    (arises : Arises drive (Place.waiting clock task (some ticks)).items
      (Place.waiting clock task (some ticks)).sleepers clock newest world) :
    ∃ later, Arises drive [.task task .elapsed] [] later newest world := by
  cases ticks with
  | zero => exact ⟨clock, arises⟩
  | succ ticks =>
      have waits : Arises drive [] [⟨task, some (clock + (ticks + 1))⟩] clock newest world :=
        arises
      have later : clock < clock + (ticks + 1) := by omega
      have woken := waits.wait later (by simp)
      simp only [List.filter_cons, List.filter_nil, isDue_of_eq, Bool.not_true, Bool.false_eq_true,
        if_true, if_false, List.map_cons, List.map_nil] at woken
      exact ⟨_, woken⟩

/-! ### Triggers -/

theorem supersede_nobody {state : State World Note Request Inner} (ready : state.ready = [])
    (sleeping : state.sleeping = []) (key : String) :
    (state.supersede key).ready = [] ∧ (state.supersede key).sleeping = [] := by
  obtain ⟨registry, _tasks, ⟨_none, same⟩ | ⟨generation, _some, same⟩⟩ := state.supersede_cases key
  · rw [same]
    exact ⟨ready, sleeping⟩
  · rw [same, State.ready_cancelTask, State.sleeping_cancelTask, ready, sleeping]
    exact ⟨rfl, rfl⟩

/-- The only task is asked to stop, wherever it stands. -/
theorem supersede_only {state : State World Note Request Inner} {task : Task Request Inner}
    {place : Place Request Inner} {key : String} (named : task.token.key = key)
    (own : (∃ wake, place = .queued task wake) ∨ ∃ due, place = .asleep task due)
    (ready : state.ready = place.items) (sleeping : state.sleeping = place.sleepers)
    (counts : state.Counts task.token) :
    (state.cancelKey key).ready = [.task task .cancelled] ∧
      (state.cancelKey key).sleeping = [] := by
  change (state.supersede key).ready = _ ∧ (state.supersede key).sleeping = []
  unfold State.Counts at counts
  rw [named] at counts
  obtain ⟨registry, _tasks, ⟨none, _same⟩ | ⟨generation, newest, same⟩⟩ :=
    state.supersede_cases key
  · rw [counts] at none
    cases none
  · rw [counts] at newest
    rw [same, State.ready_cancelTask, State.sleeping_cancelTask, ready, sleeping,
      ← Option.some.inj newest]
    rcases own with ⟨wake, rfl⟩ | ⟨due, rfl⟩
    · simp [Place.items, Place.sleepers, Item.cancelled]
    · simp [Place.items, Place.sleepers]

theorem arises_trigger {state : State World Note Request Inner} {key : String}
    {request : Request} (reached : drive.reach (state.schedule key request)) :
    let token := Token.issue key state.registry.nextGeneration
    Arises drive
      ((state.supersede key).ready ++ [.task { token, request, stage := .scheduled } .elapsed])
      (state.supersede key).sleeping state.clock token state.world := by
  have sameNext := (State.supersede_quiet state key).nextGeneration
  rw [List.length_nil, Int.natCast_zero, Int.add_zero] at sameNext
  refine ⟨_, reached, ?_, rfl, (state.supersede_clock key).1, ?_, ?_, ?_⟩
  · rw [← sameNext]
    rfl
  · unfold State.Counts
    rw [State.tasks_schedule]
    exact if_pos rfl
  · unfold Registry.isCurrent
    rw [State.tokens_schedule, Token.issue, if_pos rfl]
    simp
  · exact (state.supersede_world key).1

end

end ListingAtlas.Session
