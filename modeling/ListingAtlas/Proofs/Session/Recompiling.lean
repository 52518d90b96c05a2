import ListingAtlas.Proofs.Session.Overlap
import ListingAtlas.Proofs.Session.Standing

/-!
The status that tells of a running correlation. A call that ends as cancelled, or ends after its
task was superseded, leaves the status as it is, so that the status is true only where no call ever
does either.
-/

namespace ListingAtlas.Session

variable {World Note Request Inner : Type}

/-- Whenever nothing is ready and the status tells of a running correlation, a call is in flight. -/
def RecompilingTruthful (behaviour : Behaviour World Note Request Inner) (settings : Settings) :
    Prop :=
  ∀ state, Reaches behaviour settings state → state.ready = [] → state.status = .recompiling →
    ∃ key, 0 < state.inFlight key

/-! ### Calls that hold on -/

section

variable (behaviour : Behaviour World Note Request Inner)

/-- Whether a call can end that is left to itself. -/
inductive Finishes : Inner → Prop
  | ends (world : World) {inner : Inner} {ending : Ending}
      (move : (behaviour.resume world inner .elapsed).move = .finish ending) : Finishes inner
  | waits (world : World) {ticks : Nat} {inner next : Inner}
      (move : (behaviour.resume world inner .elapsed).move = .wait (some ticks) next)
      (rest : Finishes next) : Finishes inner

/-- Whether a call can end that is cancelled where it waits. -/
inductive Relents (inner : Inner) : Prop
  | ends (world : World) {ending : Ending}
      (move : (behaviour.resume world inner .cancelled).move = .finish ending) : Relents inner
  | waits (world : World) {ticks : Nat} {next : Inner}
      (move : (behaviour.resume world inner .cancelled).move = .wait (some ticks) next)
      (rest : Finishes behaviour next) : Relents inner

/-- No call ends without a status unless it is cancelled, and none that is cancelled ever ends. -/
structure Unrelenting : Prop where
  start : ∀ world request key (count : Nat) ending,
    (behaviour.start world request (Token.issue key (count + 1))).move = .finish ending →
      ending.status?.isSome = true
  elapsed : ∀ (ticks : Nat) inner, Attained behaviour (some ticks) inner → ∀ world ending,
    (behaviour.resume world inner .elapsed).move = .finish ending → ending.status?.isSome = true
  cancelled : ∀ ticks inner, Attained behaviour ticks inner → ¬ Relents behaviour inner

/-- Where a task can stand that is in its call, if its token is current and if it is not. -/
inductive Holds (inner : Inner) : Bool → Place Request Inner → Prop
  | waiting {place : Place Request Inner} (waits : Waits behaviour inner place) :
      Holds inner true place
  | asked {task : Task Request Inner} {ticks : Option Nat}
      (attained : Attained behaviour ticks inner) : Holds inner false (.queued task .cancelled)
  | goesOn {task : Task Request Inner} (endless : ¬ Finishes behaviour inner) :
      Holds inner false (.queued task .elapsed)
  | sleepsOn {task : Task Request Inner} {due : Option Nat}
      (endless : ∀ stop, due = some stop → ¬ Finishes behaviour inner) :
      Holds inner false (.asleep task due)

end

section

variable {behaviour : Behaviour World Note Request Inner} {inner next : Inner}
  {task : Task Request Inner} {place : Place Request Inner} {current : Bool} {clock : Nat}
  {ticks : Option Nat}

theorem Holds.waits (holds : Holds behaviour inner true place) : Waits behaviour inner place := by
  cases holds with
  | waiting waits => exact waits

theorem Holds.later {due : Option Nat} (holds : Holds behaviour inner current (.asleep task due)) :
    Holds behaviour inner current (Place.later clock (.asleep task due)) := by
  cases holds with
  | waiting waits => exact .waiting (waits.later clock)
  | sleepsOn endless =>
      rw [Place.later]
      split
      · rename_i woken
        cases due with
        | none => cases woken
        | some stop => exact .goesOn (endless stop rfl)
      · exact .sleepsOn endless

theorem Holds.of_endless (clock : Nat) (task : Task Request Inner)
    (endless : ∀ count, ticks = some count → ¬ Finishes behaviour inner) :
    Holds behaviour inner false (.waiting clock task ticks) := by
  by_cases zero : ticks = some 0
  · rw [zero, Place.waiting_zero]
    exact .goesOn (endless 0 zero)
  · rw [Place.waiting, if_neg zero]
    refine .sleepsOn ?_
    intro stop timed
    obtain ⟨count, counted, _same⟩ := Option.map_eq_some_iff.mp timed
    exact endless count counted

/-- A call that goes on still holds on. -/
theorem Holds.resume (unrelenting : Unrelenting behaviour) {wake : Wake}
    (holds : Holds behaviour inner current (.queued task wake)) {world : World}
    (move : (behaviour.resume world inner wake).move = .wait ticks next)
    (clock : Nat) (other : Task Request Inner) :
    Holds behaviour next current (.waiting clock other ticks) := by
  cases holds with
  | waiting waits => exact .waiting (waits.resume move clock other)
  | asked attained =>
      apply Holds.of_endless
      rintro count rfl rest
      exact unrelenting.cancelled _ inner attained (.waits world move rest)
  | goesOn endless =>
      apply Holds.of_endless
      rintro count rfl rest
      exact endless (.waits world move rest)

/-- A call that ends does so while its token is current. -/
theorem Holds.finish (unrelenting : Unrelenting behaviour) {wake : Wake}
    (holds : Holds behaviour inner current (.queued task wake)) {world : World} {ending : Ending}
    (move : (behaviour.resume world inner wake).move = .finish ending) :
    current = true ∧ ending.status?.isSome = true := by
  cases holds with
  | waiting waits =>
      cases waits with
      | ready attained => exact ⟨rfl, unrelenting.elapsed _ inner attained world ending move⟩
  | asked attained => exact absurd (.ends world move) (unrelenting.cancelled _ inner attained)
  | goesOn endless => exact absurd (.ends world move) endless

end

section

variable {behaviour : Behaviour World Note Request Inner}
  {state before after : State World Note Request Inner}

/-! ### Every call holds on -/

/-- Every task in its call stands where it can. -/
def Held (behaviour : Behaviour World Note Request Inner)
    (state : State World Note Request Inner) : Prop :=
  ∀ task place inner, Seats state task place → task.stage = .correlating inner →
    Holds behaviour inner (state.registry.isCurrent task.token) place

/-- Holding on is a rule for places that says nothing of tasks before their call. -/
theorem Unrelenting.standing (unrelenting : Unrelenting behaviour) (settings : Settings) :
    Standing behaviour settings fun current place =>
      ∀ task inner, place.task? = some task → task.stage = .correlating inner →
        Holds behaviour inner current place where
  scheduled := by
    rintro task early other inner ⟨rfl⟩ stage
    rw [early] at stage
    cases stage
  stopped := by
    rintro task wake allowed other inner ⟨rfl⟩ stage
    obtain ⟨ticks, attained⟩ := (allowed task inner rfl stage).waits.attained
    exact .asked attained
  roused := by
    rintro task due allowed other inner ⟨rfl⟩ stage
    obtain ⟨ticks, attained⟩ := (allowed task inner rfl stage).waits.attained
    exact .asked attained
  woken := by
    intro current clock task due allowed other inner here stage
    rw [Place.task?_later] at here
    cases here
    exact (allowed task inner rfl stage).later
  led := by
    intro before task wake place count _configured issued goes live allowed other inner here stage
    cases goes with
    | debounce ticks _early _elapsed _agreed =>
        rw [Place.task?_waiting] at here
        cases here
        cases stage
    | start _place _ripe _elapsed current led =>
        rw [current]
        generalize move : (behaviour.start before.world task.request task.token).move = made at led
        cases led with
        | finish ending outcome => exact absurd rfl (live outcome)
        | wait ticks begun =>
            rw [Place.task?_waiting] at here
            cases here
            cases stage
            rw [issued] at move
            exact .waiting (.of_attained _ _ (.start _ _ _ _ move))
    | resume _place former goesOn led =>
        generalize move : (behaviour.resume before.world former wake).move = made at led
        cases led with
        | finish ending outcome => exact absurd rfl (live outcome)
        | wait ticks next =>
            rw [Place.task?_waiting] at here
            cases here
            cases stage
            exact (allowed task former rfl goesOn).resume unrelenting move _ _
    | drop outcome _early => exact absurd rfl (live outcome)

theorem Reaches.held {settings : Settings} (unrelenting : Unrelenting behaviour)
    (reaches : Reaches behaviour settings state) : Held behaviour state := by
  intro task place inner seats stage
  exact (unrelenting.standing settings).stands reaches task place seats task inner seats.task? stage

/-! ### The status is true -/

/-- Whether a call is in flight. -/
def State.Calling (state : State World Note Request Inner) : Prop :=
  ∃ token, (token, Phase.working) ∈ state.roster

theorem State.Calling.inFlight (calling : state.Calling) : ∃ key, 0 < state.inFlight key := by
  obtain ⟨token, member⟩ := calling
  refine ⟨token.key, ?_⟩
  unfold State.inFlight
  rw [List.countP_pos_iff]
  exact ⟨_, member, by simp⟩

theorem statusAfter_ne (cause : Failure) : (statusAfter cause).1 ≠ .recompiling := by
  unfold statusAfter
  cases cause.classOf <;> exact fun same => by cases same

theorem statusWith_ne (correlation : Correlation) : statusWith correlation ≠ .recompiling := by
  unfold statusWith
  split <;> exact fun same => by cases same

/-- A call that ends with a status tells of something else if its token is current. -/
theorem Move.statusFrom_ne (status : Status) {ending : Ending}
    (told : ending.status?.isSome = true) :
    (Move.finish ending : Move Inner).statusFrom true status ≠ .recompiling := by
  cases ending with
  | cancelled => cases told
  | wordless isExpected escape => cases told
  | failure cause => exact statusAfter_ne cause
  | result correlation => exact statusWith_ne correlation

theorem Moved.calling {token : Token} {task : Task Request Inner} {inner : Inner} {clock : Nat}
    {ticks : Option Nat}
    (moved : Moved before after token
      (.waiting clock { task with stage := .correlating inner } ticks)) : after.Calling := by
  have seated : ∃ place, Seats after { task with stage := .correlating inner } place := by
    rcases Place.waiting_own clock { task with stage := .correlating inner } ticks with
      ⟨wake, here⟩ | ⟨due, here⟩
    · rw [here] at moved
      refine ⟨.queued _ wake, .queued ?_⟩
      rw [moved.ready]
      exact List.mem_append_right _ List.mem_cons_self
    · rw [here] at moved
      refine ⟨.asleep _ due, .asleep ?_⟩
      rw [moved.sleeping]
      exact List.mem_append_right _ List.mem_cons_self
  obtain ⟨place, seats⟩ := seated
  exact ⟨task.token, seats.mem_roster⟩

theorem Turned.calling (unrelenting : Unrelenting behaviour) (calm : before.settings.Calm)
    {task : Task Request Inner} {wake : Wake} {count : Nat}
    (turned : Turned behaviour before after task wake)
    (mine : ∀ inner, task.stage = .correlating inner →
      Holds behaviour inner (before.registry.isCurrent task.token) (.queued task wake))
    (issued : task.token = Token.issue task.token.key (count + 1))
    (others : before.Calling → after.Calling)
    (calls : before.status = .recompiling → task.stage.phase = .working ∨ before.Calling)
    (recompiling : after.status = .recompiling) : after.Calling := by
  cases turned with
  | early stage _world status _seats =>
      rw [status] at recompiling
      rcases calls recompiling with working | calling
      · cases held : task.stage with
        | correlating inner => exact absurd held (stage inner)
        | scheduled => rw [held] at working; cases working
        | debouncing => rw [held] at working; cases working
      · exact others calling
  | interrupted raised _stage _elapsed _world _seats => exact absurd (calm.raised?_eq_none _ _) raised
  | start place moved ripe elapsed current led _world status =>
      rw [status] at recompiling
      generalize move : (behaviour.start before.world task.request task.token).move = made
        at led recompiling
      cases led with
      | wait ticks inner => exact moved.calling
      | finish ending outcome =>
          rw [issued] at move
          exact absurd recompiling
            (Move.statusFrom_ne _ (unrelenting.start _ _ _ _ ending move))
  | resume place moved inner stage led _world status =>
      rw [status] at recompiling
      generalize move : (behaviour.resume before.world inner wake).move = made at led recompiling
      cases led with
      | wait ticks next => exact moved.calling
      | finish ending outcome =>
          obtain ⟨current, told⟩ := (mine inner stage).finish unrelenting move
          rw [current] at recompiling
          exact absurd recompiling (Move.statusFrom_ne _ told)

theorem status_of_silent {occurrence : Occurrence World Request} (inTurn : occurrence.InTurn state)
    (silent : speaker? state occurrence = none) :
    (state.occur behaviour occurrence).status = state.status := by
  by_cases outside : ∃ world, occurrence = .outside world
  · obtain ⟨world, rfl⟩ := outside
    rfl
  · exact (State.occur_steady behaviour inTurn silent
      fun world same => outside ⟨world, same⟩).status

theorem Reaches.calling {settings : Settings} (unrelenting : Unrelenting behaviour)
    (calm : settings.Calm) (reaches : Reaches behaviour settings state)
    (recompiling : state.status = .recompiling) :
    state.Calling := by
  induction reaches with
  | initial world => cases recompiling
  | @next state occurrence before inTurn ih =>
      cases spoken : speaker? state occurrence with
      | none =>
          have only := occur_callOnly behaviour state occurrence spoken
          rw [status_of_silent inTurn spoken] at recompiling
          obtain ⟨token, member⟩ := ih recompiling
          exact ⟨token, only.mem_roster.mpr (Or.inr member)⟩
      | some task =>
          obtain ⟨position, wake, rfl, found⟩ := speaker?_eq_some spoken
          have first : position = 0 := inTurn
          rw [first] at found recompiling ⊢
          have here : Seats state task (.queued task wake) :=
            .queued (List.mem_of_getElem? found)
          obtain ⟨count, issued⟩ := before.numbered.issued _ here.mem_roster
          obtain ⟨new, more, turn⟩ := State.runTask_turnOf behaviour (state.taken 0) task wake
          have silent : (state.taken 0).settings.Calm := before.configured.symm ▸ calm
          rw [State.occur_turn found] at recompiling ⊢
          refine (State.runTask_turned behaviour (state.taken 0) task wake).calling unrelenting
            silent (fun inner => before.held unrelenting task _ inner here) issued ?_ ?_ recompiling
          · rintro ⟨token, member⟩
            exact ⟨token, turn.mem_roster.mpr (Or.inr member)⟩
          · intro told
            obtain ⟨token, member⟩ := ih told
            rcases (State.mem_roster_taken found).mp member with own | rest
            · exact Or.inl (Prod.mk.inj own).2.symm
            · exact Or.inr ⟨token, rest⟩

/-- Without a debounce that ends, no correlation is ever said to run. -/
theorem Reaches.not_recompiling {settings : Settings} (reaches : Reaches behaviour settings state)
    (endless : ∀ ticks, settings.debounce ≠ some (.ticks ticks)) :
    state.status ≠ .recompiling := by
  induction reaches with
  | initial world => exact fun same => by cases same
  | @next state occurrence before inTurn ih =>
      cases spoken : speaker? state occurrence with
      | none =>
          rw [status_of_silent inTurn spoken]
          exact ih
      | some task =>
          obtain ⟨position, wake, rfl, found⟩ := speaker?_eq_some spoken
          have first : position = 0 := inTurn
          rw [first] at found ⊢
          have here : Seats state task (.queued task wake) :=
            .queued (List.mem_of_getElem? found)
          have dozes := before.dormant endless task _ here
          rw [State.occur_turn found]
          cases State.runTask_turned behaviour (state.taken 0) task wake with
          | early _early _world status _seats =>
              rw [status]
              exact ih
          | interrupted raised stage elapsed world seats =>
              rw [elapsed] at dozes
              exact absurd stage dozes.not_ripe
          | start place moved stage elapsed current led world status =>
              rw [elapsed] at dozes
              exact absurd stage dozes.not_ripe
          | resume place moved inner stage led world status =>
              have early := dozes.early here
              rw [stage] at early
              cases early

/-! ### A call on its own -/

/-- The status tells of a running correlation, and this is the only task that has not ended. -/
structure Solo (behaviour : Behaviour World Note Request Inner) (settings : Settings)
    (current : Bool) (task : Task Request Inner) (place : Place Request Inner)
    (state : State World Note Request Inner) : Prop where
  reaches : Reaches behaviour settings state
  ready : state.ready = place.items
  sleeping : state.sleeping = place.sleepers
  current : state.registry.isCurrent task.token = current
  status : state.status = .recompiling

/-- Whether a session can get to where the status tells of a running correlation and all tasks have
ended. -/
def Belied (behaviour : Behaviour World Note Request Inner) (settings : Settings) : Prop :=
  ∃ state, Reaches behaviour settings state ∧ state.ready = [] ∧ state.sleeping = [] ∧
    state.status = .recompiling

variable {settings : Settings} {task : Task Request Inner} {place : Place Request Inner}
  {current : Bool} {inner next : Inner} {ticks : Option Nat} {wake : Wake}

theorem not_truthful_of_belied (belied : Belied behaviour settings) :
    ¬ RecompilingTruthful behaviour settings := by
  obtain ⟨state, reaches, ready, sleeping, status⟩ := belied
  intro truthful
  obtain ⟨key, flies⟩ := truthful state reaches ready status
  have none : state.inFlight key = 0 := by
    apply State.inFlight_eq_zero
    intro task place seats
    cases seats with
    | queued present =>
        rw [ready] at present
        cases present
    | asleep present =>
        rw [sleeping] at present
        cases present
  omega

/-- The only task in the queue has its turn in some world. -/
theorem Reaches.run (reaches : Reaches behaviour settings state)
    (ready : state.ready = [.task task wake]) (world : World) :
    Reaches behaviour settings
      (State.runTask behaviour { state with world, ready := [] } task wake) := by
  have turned := (reaches.outside world).next (.turn 0) rfl
  have run : ({ state with world } : State World Note Request Inner).occur behaviour (.turn 0) =
      State.runTask behaviour { state with world, ready := [] } task wake :=
    State.occur_task behaviour ready
  rw [run] at turned
  exact turned

theorem Solo.resume (solo : Solo behaviour settings current task (.queued task wake) state)
    (stage : task.stage = .correlating inner) {world : World}
    (move : (behaviour.resume world inner wake).move = .wait ticks next) :
    ∃ after, Solo behaviour settings current { task with stage := .correlating next }
      (.waiting after.clock { task with stage := .correlating next } ticks) after := by
  let before : State World Note Request Inner := { state with world, ready := [] }
  obtain ⟨new, more, turn⟩ := State.runTask_turnOf behaviour before task wake
  refine ⟨State.runTask behaviour before task wake, ?_⟩
  rw [turn.clock]
  cases State.runTask_turned behaviour before task wake with
  | early other _world _status _seats => exact absurd stage (other inner)
  | interrupted _raised other _elapsed _world _seats =>
      rw [stage] at other
      cases other
  | start _place _moved other _elapsed _current _led _world _status =>
      rw [stage] at other
      cases other
  | resume place moved former same led _world status =>
      rw [stage, Stage.correlating.injEq] at same
      rw [← same, move] at led status
      cases led with
      | wait ticks next =>
          refine ⟨solo.reaches.run solo.ready world, ?_, ?_, ?_, status.trans solo.status⟩
          · exact moved.ready.trans (List.nil_append _)
          · rw [moved.sleeping]
            change state.sleeping ++ _ = _
            rw [solo.sleeping]
            rfl
          · rw [← solo.current]
            exact isCurrent_congr (congrArg (Table.get? · task.token.key) turn.tokens)

theorem Solo.finish (solo : Solo behaviour settings current task (.queued task wake) state)
    (stage : task.stage = .correlating inner) {world : World} {ending : Ending}
    (move : (behaviour.resume world inner wake).move = .finish ending)
    (untold : current = true → ending.status? = none) : Belied behaviour settings := by
  let before : State World Note Request Inner := { state with world, ready := [] }
  refine ⟨State.runTask behaviour before task wake, solo.reaches.run solo.ready world, ?_⟩
  cases State.runTask_turned behaviour before task wake with
  | early other _world _status _seats => exact absurd stage (other inner)
  | interrupted _raised other _elapsed _world _seats =>
      rw [stage] at other
      cases other
  | start _place _moved other _elapsed _current _led _world _status =>
      rw [stage] at other
      cases other
  | resume place moved former same led _world status =>
      rw [stage, Stage.correlating.injEq] at same
      rw [← same, move] at led status
      change _ = Move.statusFrom (state.registry.isCurrent task.token) state.status _ at status
      rw [solo.current, solo.status] at status
      cases led with
      | finish ending outcome =>
          refine ⟨moved.ready, ?_, ?_⟩
          · rw [moved.sleeping]
            change state.sleeping ++ _ = _
            rw [solo.sleeping]
            rfl
          · rw [status]
            cases current with
            | false => rfl
            | true =>
                rw [Move.statusFrom, if_pos rfl, untold rfl]
                rfl

/-- Whoever sleeps alone wakes in time. -/
theorem Solo.awaken_asleep {due : Nat}
    (solo : Solo behaviour settings current task (.asleep task (some due)) state)
    (later : state.clock < due) :
    ∃ after, Solo behaviour settings current task (.queued task .elapsed) after := by
  obtain ⟨count, span⟩ := Nat.exists_eq_add_of_lt later
  induction count generalizing state with
  | zero =>
      have woken :
          State.isDue (state.clock + 1) (⟨task, some due⟩ : Sleeper Request Inner) = true :=
        decide_eq_true (Nat.le_of_eq span)
      refine ⟨state.tick, solo.reaches.next .tick solo.ready, ?_, ?_, solo.current, solo.status⟩
      · rw [state.ready_tick solo.ready, solo.sleeping, Place.sleepers, List.filter_cons,
          if_pos woken]
        rfl
      · rw [state.sleeping_tick, solo.sleeping, Place.sleepers, List.filter_cons, woken]
        rfl
  | succ count ih =>
      have early : State.isDue (state.clock + 1) (⟨task, some due⟩ : Sleeper Request Inner) =
          false := decide_eq_false (by omega)
      have still : Solo behaviour settings current task (.asleep task (some due)) state.tick := by
        refine ⟨solo.reaches.next .tick solo.ready, ?_, ?_, solo.current, solo.status⟩
        · rw [state.ready_tick solo.ready, solo.sleeping, Place.sleepers, List.filter_cons, early]
          rfl
        · rw [state.sleeping_tick, solo.sleeping, Place.sleepers, List.filter_cons, early]
          rfl
      have rest : due = state.tick.clock + count + 1 := by
        change due = state.clock + 1 + count + 1
        omega
      exact ih still (by omega) rest

theorem Solo.awaken {count : Nat}
    (solo : Solo behaviour settings current task (.waiting state.clock task (some count)) state) :
    ∃ after, Solo behaviour settings current task (.queued task .elapsed) after := by
  cases count with
  | zero => exact ⟨state, solo⟩
  | succ count =>
      rw [Place.waiting_pos state.clock task (Nat.succ_pos count)] at solo
      exact solo.awaken_asleep (by omega)

theorem Solo.cancel
    (solo : Solo behaviour settings true task (.waiting state.clock task ticks) state) :
    Solo behaviour settings false task (.queued task .cancelled)
      (state.cancelKey task.token.key) := by
  have counts : state.Counts task.token :=
    (solo.reaches.inStep.isCurrent_iff task.token).mp solo.current
  obtain ⟨ready, sleeping⟩ := supersede_only rfl (Place.waiting_own state.clock task ticks)
    solo.ready solo.sleeping counts
  refine ⟨solo.reaches.next (.cancel _) trivial, ready, sleeping, ?_, ?_⟩
  · unfold Registry.isCurrent
    rw [State.tokens_cancelKey, if_pos rfl]
  · exact (state.supersede_world task.token.key).2.trans solo.status

/-- A session can get to where just this task is about to begin its call. -/
theorem exists_ripe (behaviour : Behaviour World Note Request Inner) {debounce : Nat}
    (debounced : settings.debounce = some (.ticks debounce)) (world : World) (key : String)
    (request : Request) (count : Nat) :
    let task : Task Request Inner :=
      { token := Token.issue key (count + 1), request, stage := .debouncing }
    ∃ state : State World Note Request Inner, Reaches behaviour settings state ∧
      state.ready = [.task task .elapsed] ∧ state.sleeping = [] ∧
        state.registry.isCurrent task.token = true := by
  obtain ⟨state, reaches, ready, sleeping, next⟩ :=
    exists_blank behaviour settings world key request count
  have triggered : (Drive.free behaviour settings).reach _ := reaches.trigger key request
  have arises := arises_trigger triggered
  have nobody := supersede_nobody ready sleeping key
  rw [nobody.1, nobody.2, next] at arises
  obtain ⟨clock, ripe⟩ := (arises.debounce debounced rfl).alone
  obtain ⟨after, reached, first, asleep, _now, _counts, current, _here⟩ := ripe
  exact ⟨after, reached, first, asleep, current⟩

section

variable {debounce : Nat} {world : World} {request : Request} {key : String} {count : Nat}

theorem solo_of_start (calm : settings.Calm)
    (debounced : settings.debounce = some (.ticks debounce))
    (move : (behaviour.start world request (Token.issue key (count + 1))).move =
      .wait ticks inner) :
    ∃ (task : Task Request Inner) (state : State World Note Request Inner),
      task.stage = .correlating inner ∧
        Solo behaviour settings true task (.waiting state.clock task ticks) state := by
  obtain ⟨state, reaches, ready, sleeping, current⟩ :=
    exists_ripe behaviour debounced world key request count
  let task : Task Request Inner :=
    { token := Token.issue key (count + 1), request, stage := .debouncing }
  let before : State World Note Request Inner := { state with world, ready := [] }
  have quiet : before.settings.Calm := reaches.configured.symm ▸ calm
  have silent : before.raised? begun = none := quiet.raised?_eq_none _ _
  obtain ⟨new, more, turn⟩ := State.runTask_turnOf behaviour before task .elapsed
  obtain ⟨place, led, moved, _world, status⟩ :=
    State.runTask_start behaviour before task rfl current silent
  rw [show (behaviour.start before.world task.request task.token).move = .wait ticks inner
    from move] at led status
  cases led with
  | wait ticks inner =>
      refine ⟨{ task with stage := .correlating inner }, _, rfl, reaches.run ready world, ?_, ?_,
        ?_, status⟩
      · rw [turn.clock]
        exact moved.ready.trans (List.nil_append _)
      · rw [turn.clock, moved.sleeping]
        change state.sleeping ++ _ = _
        rw [sleeping]
        rfl
      · rw [← current]
        exact isCurrent_congr (congrArg (Table.get? · task.token.key) turn.tokens)

theorem belied_of_start (calm : settings.Calm)
    (debounced : settings.debounce = some (.ticks debounce)) {ending : Ending}
    (move : (behaviour.start world request (Token.issue key (count + 1))).move = .finish ending)
    (untold : ending.status? = none) : Belied behaviour settings := by
  obtain ⟨state, reaches, ready, sleeping, current⟩ :=
    exists_ripe behaviour debounced world key request count
  let task : Task Request Inner :=
    { token := Token.issue key (count + 1), request, stage := .debouncing }
  let before : State World Note Request Inner := { state with world, ready := [] }
  have quiet : before.settings.Calm := reaches.configured.symm ▸ calm
  have silent : before.raised? begun = none := quiet.raised?_eq_none _ _
  obtain ⟨place, led, moved, _world, status⟩ :=
    State.runTask_start behaviour before task rfl current silent
  rw [show (behaviour.start before.world task.request task.token).move = .finish ending
    from move] at led status
  cases led with
  | finish ending outcome =>
      rw [Move.statusFrom, if_pos rfl, untold] at status
      refine ⟨_, reaches.run ready world, moved.ready, ?_, status⟩
      rw [moved.sleeping]
      change state.sleeping ++ _ = _
      rw [sleeping]
      rfl

end

theorem Attained.solo (calm : settings.Calm) {debounce : Nat}
    (debounced : settings.debounce = some (.ticks debounce))
    (attained : Attained behaviour ticks inner) :
    ∃ (task : Task Request Inner) (state : State World Note Request Inner),
      task.stage = .correlating inner ∧
        Solo behaviour settings true task (.waiting state.clock task ticks) state := by
  induction attained with
  | start world request key count move => exact solo_of_start calm debounced move
  | resume world _before move ih =>
      obtain ⟨task, state, stage, solo⟩ := ih
      obtain ⟨woken, ready⟩ := solo.awaken
      obtain ⟨after, waits⟩ := ready.resume stage move
      exact ⟨_, after, rfl, waits⟩

/-- A call that goes on after it was cancelled, and can end, gives the status the lie. -/
theorem Solo.finishes {count : Nat} (finishes : Finishes behaviour inner)
    (stage : task.stage = .correlating inner)
    (solo : Solo behaviour settings false task (.waiting state.clock task (some count)) state) :
    Belied behaviour settings := by
  induction finishes generalizing task state count with
  | ends world move =>
      obtain ⟨woken, ready⟩ := solo.awaken
      exact ready.finish stage move fun current => by cases current
  | waits world move _rest ih =>
      obtain ⟨woken, ready⟩ := solo.awaken
      obtain ⟨after, waits⟩ := ready.resume stage move
      exact ih rfl waits

/-! ### When the status is true -/

theorem unrelenting_of_truthful (calm : settings.Calm) {debounce : Nat}
    (debounced : settings.debounce = some (.ticks debounce))
    (truthful : RecompilingTruthful behaviour settings) : Unrelenting behaviour := by
  have lie (belied : Belied behaviour settings) : False := not_truthful_of_belied belied truthful
  refine ⟨?_, ?_, ?_⟩
  · intro world request key count ending move
    by_contra untold
    exact lie (belied_of_start calm debounced move (Option.not_isSome_iff_eq_none.mp untold))
  · intro ticks inner attained world ending move
    by_contra untold
    obtain ⟨task, state, stage, solo⟩ := attained.solo calm debounced
    obtain ⟨woken, ready⟩ := solo.awaken
    exact lie (ready.finish stage move fun _current => Option.not_isSome_iff_eq_none.mp untold)
  · intro ticks inner attained relents
    obtain ⟨task, state, stage, solo⟩ := attained.solo calm debounced
    cases relents with
    | ends world move => exact lie (solo.cancel.finish stage move fun current => by cases current)
    | waits world move rest =>
        obtain ⟨after, waits⟩ := solo.cancel.resume stage move
        exact lie (waits.finishes rest rfl)

/-- The status that tells of a running correlation is true if and only if the debounce never ends or
no call ends without a status unless it is cancelled and none that is cancelled ever ends. -/
theorem recompilingTruthful_iff (behaviour : Behaviour World Note Request Inner)
    (debounce : Option Span) (statuses results : Bool) :
    RecompilingTruthful behaviour (.recording debounce statuses results) ↔
      ∀ ticks, debounce = some (.ticks ticks) → Unrelenting behaviour := by
  have calm := Settings.recording_calm debounce statuses results
  constructor
  · intro truthful ticks debounced
    exact unrelenting_of_truthful calm debounced truthful
  · intro unrelenting state reaches _settled recompiling
    by_cases ends : ∃ ticks, debounce = some (.ticks ticks)
    · obtain ⟨ticks, debounced⟩ := ends
      exact (reaches.calling (unrelenting ticks debounced) calm recompiling).inFlight
    · exact absurd recompiling (reaches.not_recompiling fun ticks same => ends ⟨ticks, same⟩)

end

/-- The only correlation is cancelled while it runs, and the status still tells of it. -/
theorem planned_recompiling_for_nobody :
    let settings := Settings.recording (some (.ticks 0)) true true
    let source : Path := { root := "", parts := ["main.c"] }
    let plan : Plan := ⟨"a", .ticks 5, .result { sourceName := "main.c", entries := [] }, none⟩
    let script : List (Operation Plan) :=
      [.trigger "k" source plan, .advance 1, .cancel "k", .advance 1]
    ∃ state, Reaches (planned Unit).toBehaviour settings state ∧
      state = performAll (planned Unit) (State.initial settings ()) script ∧
        state.ready = [] ∧ state.status = .recompiling ∧ ∀ key, state.inFlight key = 0 := by
  intro settings source plan script
  have kept : ∀ operation ∈ script, ∀ key, operation ≠ .forget key := by
    intro operation member key same
    rw [same] at member
    simp [script] at member
  have reaches : Reaches (planned Unit).toBehaviour settings
      (performAll (planned Unit) (State.initial settings ()) script) :=
    (Reaches.initial ()).performAll script kept
  have ready : (performAll (planned Unit) (State.initial settings ()) script).ready.isEmpty =
      true := by decide +kernel
  have status : (performAll (planned Unit) (State.initial settings ()) script).status =
      .recompiling := by decide +kernel
  have finished : (performAll (planned Unit) (State.initial settings ()) script).roster =
      [(Token.issue "k" 1, .ended .cancelled)] := by decide +kernel
  refine ⟨_, reaches, rfl, List.isEmpty_iff.mp ready, status, fun key => ?_⟩
  unfold State.inFlight
  rw [finished, List.countP_singleton, if_neg]
  simp

end ListingAtlas.Session
