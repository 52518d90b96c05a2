import ListingAtlas.Proofs.Session.Recompiling

/-!
Closing. A call to close waits for the newest task of each key, and for no other: a task that was
superseded or cancelled before goes on after the call has completed, for as long as it takes to
unwind.
-/

namespace ListingAtlas.Session

variable {World Note Request Inner : Type}

/-- What can come after a state, in a session that lets go of no task. -/
inductive Leads (behaviour : Behaviour World Note Request Inner)
    (before : State World Note Request Inner) : State World Note Request Inner → Prop
  | refl : Leads behaviour before before
  | next {between : State World Note Request Inner} (occurrence : Occurrence World Request)
      (leads : Leads behaviour before between) (inTurn : occurrence.InTurn between) :
      Leads behaviour before (between.occur behaviour occurrence)

/-- A call to close that begins now completes only when every task has ended that was triggered
before. -/
def State.ClosesLast (behaviour : Behaviour World Note Request Inner)
    (before : State World Note Request Inner) : Prop :=
  ∀ awaited, before.beginClosing.closings.getLast? = some awaited →
    ∀ after, Leads behaviour before.beginClosing after → after.hasClosed awaited = true →
      ∀ entry ∈ before.roster, (after.outcome? entry.1.generation).isSome = true

/-- Whether a call that is cancelled where it waits may wait once more, for a time or without an
end, and not just give way. -/
inductive Tarries (behaviour : Behaviour World Note Request Inner) (inner : Inner) : Prop
  | sleeps (world : World) {next : Inner}
      (move : (behaviour.resume world inner .cancelled).move = .wait none next) :
      Tarries behaviour inner
  | waits (world : World) {ticks : Nat} {next : Inner}
      (move : (behaviour.resume world inner .cancelled).move = .wait (some ticks) next)
      (lasting : 0 < ticks) : Tarries behaviour inner
  | lingers (world : World) {next : Inner}
      (move : (behaviour.resume world inner .cancelled).move = .wait (some 0) next)
      (rest : Overstays behaviour 1 next) : Tarries behaviour inner

section

variable {behaviour : Behaviour World Note Request Inner} {settings : Settings}
  {state before after : State World Note Request Inner}

/-! ### Those that have ended -/

theorem State.outcome?_isSome_iff (state : State World Note Request Inner) (generation : Int) :
    (state.outcome? generation).isSome = true ↔
      ∃ finished ∈ state.finished, finished.token.generation = generation := by
  unfold outcome?
  rw [Option.isSome_map, List.find?_isSome]
  simp only [beq_iff_eq]

/-- Whoever has ended is not begun again. -/
theorem State.exists_occur_finished (behaviour : Behaviour World Note Request Inner)
    (state : State World Note Request Inner) (occurrence : Occurrence World Request) :
    ∃ more, (state.occur behaviour occurrence).finished = state.finished ++ more := by
  cases spoken : speaker? state occurrence with
  | none =>
      refine ⟨[], ?_⟩
      rw [(occur_callOnly behaviour state occurrence spoken).finished, List.append_nil]
  | some task =>
      obtain ⟨position, wake, rfl, found⟩ := speaker?_eq_some spoken
      obtain ⟨new, more, turn⟩ := state.occur_turnOf behaviour found
      exact ⟨_, turn.finished⟩

theorem Leads.ended (leads : Leads behaviour before after) {generation : Int}
    (ended : (before.outcome? generation).isSome = true) :
    (after.outcome? generation).isSome = true := by
  induction leads with
  | refl => exact ended
  | @next between occurrence _leads _inTurn ih =>
      obtain ⟨finished, present, same⟩ := (between.outcome?_isSome_iff generation).mp ih
      obtain ⟨more, grown⟩ := between.exists_occur_finished behaviour occurrence
      rw [State.outcome?_isSome_iff, grown]
      exact ⟨finished, List.mem_append_left more present, same⟩

theorem State.ended_or_seated {entry : Token × Phase} (member : entry ∈ state.roster) :
    (state.outcome? entry.1.generation).isSome = true ∨
      ∃ task place, Seats state task place ∧ task.token = entry.1 := by
  rw [State.outcome?_isSome_iff]
  unfold roster at member
  rw [List.mem_append, List.mem_append] at member
  rcases member with (queued | asleep) | ended
  · obtain ⟨item, present, made⟩ := List.mem_filterMap.mp queued
    cases item with
    | closing => cases made
    | task task wake =>
        rw [← Option.some.inj made]
        exact Or.inr ⟨task, _, .queued present, rfl⟩
  · obtain ⟨sleeper, present, rfl⟩ := List.mem_map.mp asleep
    exact Or.inr ⟨sleeper.task, _, .asleep present, rfl⟩
  · obtain ⟨finished, present, rfl⟩ := List.mem_map.mp ended
    exact Or.inl ⟨finished, present, rfl⟩

/-- A task has not ended as long as it stands anywhere. -/
theorem Seats.not_ended {task : Task Request Inner} {place : Place Request Inner}
    (seats : Seats state task place)
    (distinct : (state.roster.map fun entry => entry.1.generation).Nodup) :
    ¬ (state.outcome? task.token.generation).isSome = true := by
  rw [State.outcome?_isSome_iff]
  rintro ⟨finished, present, same⟩
  unfold State.roster at distinct
  rw [List.map_append, List.nodup_append] at distinct
  have ended : finished.token.generation ∈
      (state.finished.map Finished.entry).map fun entry => entry.1.generation :=
    List.mem_map_of_mem (List.mem_map_of_mem present)
  refine distinct.2.2 task.token.generation ?_ _ ended same.symm
  rw [List.map_append, List.mem_append]
  cases seats with
  | queued queued =>
      exact Or.inl (List.mem_map.mpr ⟨_, List.mem_filterMap.mpr ⟨_, queued, rfl⟩, rfl⟩)
  | asleep asleep => exact Or.inr (List.mem_map_of_mem (List.mem_map_of_mem asleep))

/-! ### What a call to close waits for -/

theorem State.awaited_beginClosing (state : State World Note Request Inner) :
    state.beginClosing.closings.getLast? = some state.registry.tasks.values :=
  List.getLast?_concat

/-- Closing comes last if every task that has not ended is the newest of its key. -/
theorem closesLast_of_counted
    (counted : ∀ task place, Seats state task place → state.Counts task.token) :
    state.ClosesLast behaviour := by
  intro awaited recorded after leads closed entry member
  rw [state.awaited_beginClosing, Option.some.injEq] at recorded
  rw [← recorded] at closed
  rcases State.ended_or_seated member with ended | ⟨task, place, seats, named⟩
  · apply leads.ended
    rw [State.outcome?, state.beginClosing_quiet.finished]
    exact ended
  · have newest := counted task place seats
    rw [State.Counts, Table.get?_eq_some_iff] at newest
    rw [← named]
    exact List.all_eq_true.mp closed _ (List.mem_map_of_mem newest)

/-- The newest task of a key has ended unless it stands somewhere. -/
theorem Reaches.ended_of_newest (reaches : Reaches behaviour settings state) {key : String}
    {generation : Int} (newest : state.registry.tasks.get? key = some generation)
    (absent : ∀ task place, Seats state task place → ¬ state.Counts task.token) :
    (state.outcome? generation).isSome = true := by
  have token := reaches.inStep key
  rw [newest, Option.map_some] at token
  obtain ⟨history, rfl, sound, _registered⟩ := reaches.exists_history
  obtain ⟨earlier, later, calls, _unended⟩ := sound.newest key _ token
  have accepted : .accepted key generation ∈ history.calls := by
    rw [calls]
    exact List.mem_append_right _ List.mem_cons_self
  obtain ⟨entry, member, rfl, rfl⟩ := sound.enrolled key generation accepted
  rcases State.ended_or_seated member with ended | ⟨task, place, seats, named⟩
  · exact ended
  · refine absurd ?_ (absent task place seats)
    rw [State.Counts, named]
    exact newest

/-- A call to close has completed as soon as it begins if no task that has not ended is the newest of
its key. -/
theorem Reaches.closed_at_once (reaches : Reaches behaviour settings state)
    (absent : ∀ task place, Seats state task place → ¬ state.Counts task.token) :
    state.beginClosing.hasClosed state.registry.tasks.values = true := by
  unfold State.hasClosed
  rw [List.all_eq_true]
  intro generation member
  obtain ⟨⟨key, _generation⟩, present, rfl⟩ := List.mem_map.mp member
  rw [State.outcome?, state.beginClosing_quiet.finished]
  exact reaches.ended_of_newest ((Table.get?_eq_some_iff _ key _).mpr present) absent

/-- Closing does not wait for a task that is no longer the newest of its key. -/
theorem Reaches.not_closesLast (reaches : Reaches behaviour settings state)
    (absent : ∀ task place, Seats state task place → ¬ state.Counts task.token)
    {task : Task Request Inner} {place : Place Request Inner} (seats : Seats state task place) :
    ¬ state.ClosesLast behaviour := by
  intro last
  obtain ⟨history, rfl, sound, _registered⟩ := reaches.exists_history
  have ended := last _ (State.awaited_beginClosing _) _ .refl (reaches.closed_at_once absent) _
    seats.mem_roster
  rw [State.outcome?, (State.beginClosing_quiet _).finished] at ended
  exact seats.not_ended sound.distinct ended

/-- A task that stands alone and was asked to stop outlasts every call to close. -/
theorem Reaches.not_closesLast_alone (reaches : Reaches behaviour settings state)
    {task : Task Request Inner} {place : Place Request Inner}
    (ready : state.ready = place.items) (sleeping : state.sleeping = place.sleepers)
    (own : (∃ wake, place = .queued task wake) ∨ ∃ due, place = .asleep task due)
    (stale : ¬ state.Counts task.token) : ¬ state.ClosesLast behaviour := by
  have seats : Seats state task place := by
    rcases own with ⟨wake, rfl⟩ | ⟨due, rfl⟩
    · exact .queued (by rw [ready]; exact List.mem_singleton_self _)
    · exact .asleep (by rw [sleeping]; exact List.mem_singleton_self _)
  refine reaches.not_closesLast ?_ seats
  intro other seat here
  have same : other = task := by
    cases here with
    | queued present =>
        rw [ready] at present
        rcases own with ⟨wake, rfl⟩ | ⟨due, rfl⟩
        · rw [Place.items, List.mem_singleton, Item.task.injEq] at present
          exact present.1
        · cases present
    | asleep present =>
        rw [sleeping] at present
        rcases own with ⟨wake, rfl⟩ | ⟨due, rfl⟩
        · cases present
        · rw [Place.sleepers, List.mem_singleton, Sleeper.mk.injEq] at present
          exact present.1
  rw [same]
  exact stale

/-! ### A call to close right after a task is cancelled -/

/-- Whatever the correlator, a call to close that follows at once on a trigger and its cancellation
waits for nobody. -/
theorem exists_not_closesLast (behaviour : Behaviour World Note Request Inner) (settings : Settings)
    (world : World) (key : String) (request : Request) :
    ∃ state, Reaches behaviour settings state ∧ ¬ state.ClosesLast behaviour := by
  let blank : State World Note Request Inner := State.initial settings world
  let task : Task Request Inner :=
    { token := Token.issue key blank.registry.nextGeneration, request, stage := .scheduled }
  let place : Place Request Inner := .queued task .cancelled
  have begun : Reaches behaviour settings blank := .initial world
  have cancelled := (begun.trigger key request).next (.cancel key) trivial
  obtain ⟨ready, sleeping⟩ : ((blank.schedule key request).cancelKey key).ready = place.items ∧
      ((blank.schedule key request).cancelKey key).sleeping = place.sleepers :=
    schedule_cancelled rfl rfl key request
  refine ⟨_, cancelled, cancelled.not_closesLast_alone ready sleeping (Or.inl ⟨_, rfl⟩) ?_⟩
  change ((blank.schedule key request).cancelKey key).registry.tasks.get? key ≠ _
  rw [State.tasks_cancelKey, if_pos rfl]
  exact fun same => by cases same

/-! ### Calls that stop at once -/

/-- Whether each call that is cancelled where it can wait ends without a wait that lasts. -/
def StopsAtOnce (behaviour : Behaviour World Note Request Inner) : Prop :=
  ∀ ticks inner, Attained behaviour ticks inner → ¬ Tarries behaviour inner

/-- A task that is not in its call and not current is about to learn of it. -/
theorem early_standing (behaviour : Behaviour World Note Request Inner) (settings : Settings) :
    Standing behaviour settings fun current place =>
      ∀ task, place.task? = some task → task.stage.phase = .waiting →
        current = true ∨ place = .queued task .cancelled where
  scheduled _task _scheduled _other _here _early := Or.inl rfl
  stopped := by
    rintro task wake _allowed other ⟨rfl⟩ _early
    exact Or.inr rfl
  roused := by
    rintro task due _allowed other ⟨rfl⟩ _early
    exact Or.inr rfl
  woken := by
    intro current clock task due allowed other here early
    rw [Place.task?_later] at here
    rcases allowed other here early with here | here
    · exact Or.inl here
    · cases here
  led := by
    intro before task wake place count _configured _issued goes live allowed other here early
    cases goes with
    | debounce ticks stage elapsed _agreed =>
        rw [Place.task?_waiting] at here
        cases here
        have waiting : task.stage.phase = .waiting := by
          rw [stage]
          rfl
        rcases allowed task rfl waiting with current | asked
        · exact Or.inl current
        · rw [elapsed] at asked
          cases asked
    | start _place _stage _elapsed _current led =>
        generalize (behaviour.start before.world task.request task.token).move = made at led
        cases led with
        | finish ending outcome => exact absurd rfl (live outcome)
        | wait ticks inner =>
            rw [Place.task?_waiting] at here
            cases here
            cases early
    | resume _place inner _stage led =>
        generalize (behaviour.resume before.world inner wake).move = made at led
        cases led with
        | finish ending outcome => exact absurd rfl (live outcome)
        | wait ticks inner =>
            rw [Place.task?_waiting] at here
            cases here
            cases early
    | drop outcome _early => exact absurd rfl (live outcome)

/-- Where a task can stand that is in its call, if its token is current and if it is not, when calls
stop at once. -/
inductive Unwinds (behaviour : Behaviour World Note Request Inner) (inner : Inner) :
    Bool → Place Request Inner → Prop
  | waiting {place : Place Request Inner} (waits : Waits behaviour inner place) :
      Unwinds behaviour inner true place
  | asked {task : Task Request Inner} {ticks : Option Nat}
      (attained : Attained behaviour ticks inner) :
      Unwinds behaviour inner false (.queued task .cancelled)
  | givesWay {task : Task Request Inner} (soon : ¬ Overstays behaviour 1 inner) :
      Unwinds behaviour inner false (.queued task .elapsed)

section

variable {inner next : Inner} {task : Task Request Inner} {place : Place Request Inner}
  {current : Bool} {ticks : Option Nat}

theorem Unwinds.waits (unwinds : Unwinds behaviour inner true place) :
    Waits behaviour inner place := by
  cases unwinds with
  | waiting waits => exact waits

/-- A call that goes on does so at once, or uncancelled. -/
theorem Unwinds.resume (stops : StopsAtOnce behaviour) {wake : Wake}
    (unwinds : Unwinds behaviour inner current (.queued task wake)) {world : World}
    (move : (behaviour.resume world inner wake).move = .wait ticks next)
    (clock : Nat) (other : Task Request Inner) :
    Unwinds behaviour next current (.waiting clock other ticks) := by
  cases unwinds with
  | waiting waits => exact .waiting (waits.resume move clock other)
  | asked attained =>
      have prompt := stops _ inner attained
      cases ticks with
      | none => exact absurd (.sleeps world move) prompt
      | some ticks =>
          cases ticks with
          | zero => exact .givesWay fun rest => prompt (.lingers world move rest)
          | succ ticks => exact absurd (.waits world move (Nat.succ_pos ticks)) prompt
  | givesWay soon =>
      obtain ⟨count, rfl, within, rest⟩ := wait_of_not_overstays soon move
      cases count with
      | zero => exact .givesWay rest
      | succ count => omega

end

theorem StopsAtOnce.standing (stops : StopsAtOnce behaviour) (settings : Settings) :
    Standing behaviour settings fun current place =>
      ∀ task inner, place.task? = some task → task.stage = .correlating inner →
        Unwinds behaviour inner current place where
  scheduled := by
    rintro task early other inner ⟨rfl⟩ stage
    rw [early] at stage
    cases stage
  stopped := by
    rintro task wake allowed other inner ⟨rfl⟩ stage
    obtain ⟨ticks, attained⟩ := (allowed task inner rfl stage).waits.attained
    exact .asked attained
  roused := by
    rintro task due allowed other inner ⟨rfl⟩ stage
    obtain ⟨ticks, attained⟩ := (allowed task inner rfl stage).waits.attained
    exact .asked attained
  woken := by
    intro current clock task due allowed other inner here stage
    rw [Place.task?_later] at here
    cases here
    have unwinds := allowed task inner rfl stage
    cases unwinds with
    | waiting waits => exact .waiting (waits.later clock)
  led := by
    intro before task wake place count _configured issued goes live allowed other inner here stage
    cases goes with
    | debounce ticks _early _elapsed _agreed =>
        rw [Place.task?_waiting] at here
        cases here
        cases stage
    | start _place _ripe _elapsed current led =>
        rw [current]
        generalize move : (behaviour.start before.world task.request task.token).move = made at led
        cases led with
        | finish ending outcome => exact absurd rfl (live outcome)
        | wait ticks begun =>
            rw [Place.task?_waiting] at here
            cases here
            cases stage
            rw [issued] at move
            exact .waiting (.of_attained _ _ (.start _ _ _ _ move))
    | resume _place former goesOn led =>
        generalize move : (behaviour.resume before.world former wake).move = made at led
        cases led with
        | finish ending outcome => exact absurd rfl (live outcome)
        | wait ticks next =>
            rw [Place.task?_waiting] at here
            cases here
            cases stage
            exact (allowed task former rfl goesOn).resume stops move _ _
    | drop outcome _early => exact absurd rfl (live outcome)

/-- When nothing is ready, only current tasks are left that are not in their call. -/
theorem Reaches.current_of_early (reaches : Reaches behaviour settings state)
    (settled : state.ready = []) {task : Task Request Inner} {place : Place Request Inner}
    (seats : Seats state task place) (early : task.stage.phase = .waiting) :
    state.registry.isCurrent task.token = true := by
  rcases (early_standing behaviour settings).stands reaches task place seats task seats.task? early
    with current | rfl
  · exact current
  · cases seats with
    | queued present =>
        rw [settled] at present
        cases present

theorem Reaches.current_of_call (reaches : Reaches behaviour settings state)
    (stops : StopsAtOnce behaviour) (settled : state.ready = []) {task : Task Request Inner}
    {place : Place Request Inner} (seats : Seats state task place) {inner : Inner}
    (stage : task.stage = .correlating inner) :
    state.registry.isCurrent task.token = true := by
  have unwinds := (stops.standing settings).stands reaches task place seats task inner seats.task?
    stage
  cases seats with
  | queued present =>
      rw [settled] at present
      cases present
  | asleep present =>
      generalize state.registry.isCurrent task.token = current at unwinds
      cases unwinds with
      | waiting _waits => rfl

/-- When nothing is ready, closing comes last if the debounce never ends or calls stop at once. -/
theorem Reaches.closesLast (reaches : Reaches behaviour settings state)
    (stops : ∀ debounce, settings.debounce = some (.ticks debounce) → StopsAtOnce behaviour)
    (settled : state.ready = []) : state.ClosesLast behaviour := by
  apply closesLast_of_counted
  intro task place seats
  rw [State.Counts, ← reaches.inStep.isCurrent_iff]
  by_cases ends : ∃ debounce, settings.debounce = some (.ticks debounce)
  · obtain ⟨debounce, debounced⟩ := ends
    cases stage : task.stage with
    | correlating inner =>
        exact reaches.current_of_call (stops debounce debounced) settled seats stage
    | scheduled => exact reaches.current_of_early settled seats (by rw [stage]; rfl)
    | debouncing => exact reaches.current_of_early settled seats (by rw [stage]; rfl)
  · have dozes := reaches.dormant (fun ticks same => ends ⟨ticks, same⟩) task place seats
    exact reaches.current_of_early settled seats (dozes.early seats)

/-! ### Calls that tarry -/

section

variable {inner : Inner} {task : Task Request Inner} {ticks : Option Nat}

theorem Solo.asleep {clock : Nat}
    (solo : Solo behaviour settings false task (.waiting clock task ticks) state)
    (lasting : ticks ≠ some 0) :
    Reaches behaviour settings state ∧ state.ready = [] ∧ ¬ state.ClosesLast behaviour := by
  rw [Place.waiting, if_neg lasting] at solo
  refine ⟨solo.reaches, solo.ready, ?_⟩
  refine solo.reaches.not_closesLast_alone solo.ready solo.sleeping (Or.inr ⟨_, rfl⟩) ?_
  rw [State.Counts, ← solo.reaches.inStep.isCurrent_iff, solo.current]
  exact Bool.false_ne_true

/-- A call that is no longer current and overstays comes to where it sleeps alone. -/
theorem Solo.overstays {left : Nat} (overstays : Overstays behaviour left inner) (time : 0 < left)
    (solo : Solo behaviour settings false task (.queued task .elapsed) state)
    (stage : task.stage = .correlating inner) :
    ∃ after, Reaches behaviour settings after ∧ after.ready = [] ∧
      ¬ after.ClosesLast behaviour := by
  induction overstays generalizing task state with
  | sleeps world move =>
      obtain ⟨after, waits⟩ := solo.resume stage move
      exact ⟨after, waits.asleep (by simp)⟩
  | waits world move late =>
      obtain ⟨after, waits⟩ := solo.resume stage move
      refine ⟨after, waits.asleep ?_⟩
      rw [Ne, Option.some.injEq]
      omega
  | @lingers world left ticks inner next move rest ih =>
      obtain ⟨after, waits⟩ := solo.resume stage move
      by_cases zero : ticks = 0
      · rw [zero, Place.waiting_zero] at waits
        exact ih (by omega) waits rfl
      · exact ⟨after, waits.asleep (by rw [Ne, Option.some.injEq]; exact zero)⟩

/-- A call to close, made when nothing is ready, does not wait for a cancelled call that tarries. -/
theorem Attained.not_closesLast (calm : settings.Calm) {debounce : Nat}
    (debounced : settings.debounce = some (.ticks debounce))
    (attained : Attained behaviour ticks inner)
    (tarries : Tarries behaviour inner) :
    ∃ after, Reaches behaviour settings after ∧ after.ready = [] ∧
      ¬ after.ClosesLast behaviour := by
  obtain ⟨task, state, stage, solo⟩ := attained.solo calm debounced
  cases tarries with
  | sleeps world move =>
      obtain ⟨after, waits⟩ := solo.cancel.resume stage move
      exact ⟨after, waits.asleep (by simp)⟩
  | waits world move lasting =>
      obtain ⟨after, waits⟩ := solo.cancel.resume stage move
      refine ⟨after, waits.asleep ?_⟩
      rw [Ne, Option.some.injEq]
      omega
  | lingers world move rest =>
      obtain ⟨after, waits⟩ := solo.cancel.resume stage move
      exact waits.overstays rest Nat.zero_lt_one rfl

end

/-! ### When closing comes last -/

/-- Whatever the correlator, there is a state in which closing does not come last. Of the states in
which nothing is ready there is none if and only if the debounce never ends or each call that is
cancelled where it can wait stops at once. -/
theorem closesLast_iff (behaviour : Behaviour World Note Request Inner) (debounce : Option Span)
    (statuses results : Bool) (world : World) (key : String) (request : Request) :
    let settings := Settings.recording debounce statuses results
    (∃ state, Reaches behaviour settings state ∧ ¬ state.ClosesLast behaviour) ∧
      ((∀ state, Reaches behaviour settings state → state.ready = [] →
          state.ClosesLast behaviour) ↔
        ∀ ticks, debounce = some (.ticks ticks) → StopsAtOnce behaviour) := by
  intro settings
  refine ⟨exists_not_closesLast behaviour settings world key request, ?_, ?_⟩
  · intro last ticks debounced ticks inner attained tarries
    have calm := Settings.recording_calm debounce statuses results
    obtain ⟨state, reaches, settled, not_last⟩ := attained.not_closesLast calm debounced tarries
    exact not_last (last state reaches settled)
  · intro stops state reaches settled
    exact reaches.closesLast stops settled

end

/-- A call to close completes at once, while the task that was cancelled before holds on. -/
theorem planned_unwinds_after_close :
    let settings := Settings.recording (some (.ticks 0)) true true
    let source : Path := { root := "", parts := ["main.c"] }
    let empty : Ending := .result { sourceName := "main.c", entries := [] }
    let script : List (Operation Plan) :=
      [.trigger "k" source ⟨"old", .ticks 10, empty, some (.ticks 5)⟩, .advance 1, .cancel "k",
        .advance 1, .close]
    ∃ state, Reaches (planned Unit).toBehaviour settings state ∧
      state = performAll (planned Unit) (State.initial settings ()) script ∧
        state.closings = [[]] ∧ state.hasClosed [] = true ∧ state.outcome? 1 = none ∧
          state.inFlight "k" = 1 := by
  intro settings source empty script
  have kept : ∀ operation ∈ script, ∀ key, operation ≠ .forget key := by
    intro operation member key same
    rw [same] at member
    simp [script] at member
  have reaches : Reaches (planned Unit).toBehaviour settings
      (performAll (planned Unit) (State.initial settings ()) script) :=
    (Reaches.initial ()).performAll script kept
  have closings : (performAll (planned Unit) (State.initial settings ()) script).closings =
      [[]] := by decide +kernel
  have outcome : (performAll (planned Unit) (State.initial settings ()) script).outcome? 1 =
      none := by decide +kernel
  have flies : (performAll (planned Unit) (State.initial settings ()) script).inFlight "k" = 1 := by
    decide +kernel
  exact ⟨_, reaches, rfl, closings, rfl, outcome, flies⟩

end ListingAtlas.Session
