import ListingAtlas.Proofs.Session.Driven
import ListingAtlas.Session.Planned

/-!
Two calls for a key overlap as soon as one of them can outlast a debounce after it is cancelled. From
where such a call waits a second trigger leads to the overlap, in runs that are driven by hand.
-/

namespace ListingAtlas.Session

variable {World Note Request Inner : Type}

section

variable {behaviour : Behaviour World Note Request Inner} {settings : Settings}
  {ready : List (Item Request Inner)} {sleeping : List (Sleeper Request Inner)}
  {clock : Nat} {newest : Token} {here : World}

/-! ### Whatever the world is like -/

/-- All states that a session can reach. -/
def Drive.free (behaviour : Behaviour World Note Request Inner) (settings : Settings) :
    Drive behaviour settings where
  reach := Reaches behaviour settings
  configured := Reaches.configured
  turn := fun reaches => reaches.next (.turn 0) rfl
  tick := fun reaches settled => reaches.next .tick settled

theorem Reaches.outside {state : State World Note Request Inner}
    (reaches : Reaches behaviour settings state) (world : World) :
    Reaches behaviour settings { state with world } :=
  reaches.next (.outside world) trivial

theorem Arises.outside
    (arises : Arises (.free behaviour settings) ready sleeping clock newest here) (world : World) :
    Arises (.free behaviour settings) ready sleeping clock newest world := by
  obtain ⟨state, reaches, first, asleep, now, counts, current, _here⟩ := arises
  exact ⟨{ state with world }, reaches.outside world, first, asleep, now, counts, current, rfl⟩

theorem Arises.callIn {task : Task Request Inner} {wake : Wake} {inner next : Inner}
    {ticks : Option Nat} {world : World}
    (arises : Arises (.free behaviour settings) (.task task wake :: ready) sleeping clock newest
      here)
    (stage : task.stage = .correlating inner)
    (move : (behaviour.resume world inner wake).move = .wait ticks next) :
    let place := Place.waiting clock { task with stage := .correlating next } ticks
    Arises (.free behaviour settings) (ready ++ place.items) (sleeping ++ place.sleepers) clock
      newest (behaviour.resume world inner wake).world :=
  (arises.outside world).call stage move rfl

/-! ### Triggers -/

theorem exists_accepted : ∃ source, State.accepts source = true :=
  ⟨{ root := "", parts := ["a.c"] }, by decide +kernel⟩

theorem Reaches.trigger {state : State World Note Request Inner}
    (reaches : Reaches behaviour settings state) (key : String) (request : Request) :
    Reaches behaviour settings (state.schedule key request) := by
  obtain ⟨source, accepted⟩ := exists_accepted
  have triggered := reaches.next (.trigger key source request) trivial
  rw [State.occur, State.trigger, if_pos accepted] at triggered
  exact triggered

/-- A task that is triggered and cancelled when nobody else is there. -/
theorem schedule_cancelled {state : State World Note Request Inner} (ready : state.ready = [])
    (sleeping : state.sleeping = []) (key : String) (request : Request) :
    let token := Token.issue key state.registry.nextGeneration
    ((state.schedule key request).cancelKey key).ready =
        [.task { token, request, stage := .scheduled } .cancelled] ∧
      ((state.schedule key request).cancelKey key).sleeping = [] := by
  have nobody := supersede_nobody ready sleeping key
  have sameNext := (State.supersede_quiet state key).nextGeneration
  rw [List.length_nil, Int.natCast_zero, Int.add_zero] at sameNext
  intro token
  let task : Task Request Inner := { token, request, stage := .scheduled }
  have queued : (state.schedule key request).ready = [.task task .elapsed] := by
    change (state.supersede key).ready ++ _ = _
    rw [nobody.1, sameNext]
    rfl
  have counts : (state.schedule key request).Counts task.token := by
    unfold State.Counts
    rw [State.tasks_schedule]
    exact if_pos rfl
  exact supersede_only rfl (Or.inl ⟨.elapsed, rfl⟩) queued nobody.2 counts

/-- Before any given trigger a session can be as good as new. -/
theorem exists_blank (behaviour : Behaviour World Note Request Inner) (settings : Settings)
    (world : World) (key : String) (request : Request) (count : Nat) :
    ∃ state : State World Note Request Inner, Reaches behaviour settings state ∧
      state.ready = [] ∧ state.sleeping = [] ∧
        state.registry.nextGeneration = ((count : Nat) : Int) + 1 := by
  induction count with
  | zero => exact ⟨_, .initial world, rfl, rfl, rfl⟩
  | succ count ih =>
      obtain ⟨state, reaches, ready, sleeping, next⟩ := ih
      obtain ⟨first, asleep⟩ := schedule_cancelled ready sleeping key request
      have cancelled := (reaches.trigger key request).next (.cancel key) trivial
      have turned := cancelled.next (.turn 0) rfl
      have numbered : (state.schedule key request).registry.nextGeneration =
          ((count + 1 : Nat) : Int) + 1 := by
        rw [(State.schedule_quiet state key request).nextGeneration, next]
        rfl
      have kept := (State.cancelKey_quiet (state.schedule key request) key).nextGeneration
      rw [List.length_nil, Int.natCast_zero, Int.add_zero] at kept
      change Reaches behaviour settings
        (((state.schedule key request).cancelKey key).occur behaviour (.turn 0)) at turned
      rw [numbered] at kept
      generalize (state.schedule key request).cancelKey key = after at turned first asleep kept
      rw [State.occur, State.turnAt_zero, State.turn, first] at turned
      exact ⟨_, turned, rfl, asleep, kept⟩

/-! ### A call where it can wait -/

/-- A session can get to where just this call waits. -/
theorem Attained.arises (calm : settings.Calm) {debounce : Nat}
    (debounced : settings.debounce = some (.ticks debounce)) {ticks : Option Nat} {inner : Inner}
    (attained : Attained behaviour ticks inner) :
    ∃ (task : Task Request Inner) (clock : Nat) (here : World),
      task.stage = .correlating inner ∧
        Arises (.free behaviour settings) (Place.waiting clock task ticks).items
          (Place.waiting clock task ticks).sleepers clock task.token here := by
  induction attained with
  | start world request key count move =>
      obtain ⟨state, reaches, ready, sleeping, next⟩ :=
        exists_blank behaviour settings world key request count
      have triggered : (Drive.free behaviour settings).reach _ := reaches.trigger key request
      have arises := arises_trigger triggered
      have nobody := supersede_nobody ready sleeping key
      rw [nobody.1, nobody.2, next] at arises
      obtain ⟨clock, ripe⟩ := (arises.debounce debounced rfl).alone
      exact ⟨_, clock, _, rfl, (ripe.outside world).start calm rfl move rfl⟩
  | resume world _before move ih =>
      obtain ⟨task, clock, here, stage, arises⟩ := ih
      obtain ⟨later, ready⟩ := arises.alone
      exact ⟨_, later, _, rfl, ready.callIn stage move⟩

/-! ### Overlaps -/

section

variable {newest call : Task Request Inner} {inner : Inner}

/-- A call begins while another of its key is in flight. -/
theorem overlap
    (arises : Arises (.free behaviour settings) (.task newest .elapsed :: ready) sleeping clock
      newest.token here)
    (ripe : newest.stage = .debouncing)
    (present : (∃ wake, .task call wake ∈ ready) ∨ ∃ due, ⟨call, due⟩ ∈ sleeping)
    (stage : call.stage = .correlating inner) (sameKey : call.token.key = newest.token.key) :
    ¬ OneInFlight behaviour settings := by
  obtain ⟨state, reaches, first, asleep, _now, _counts, current, _here⟩ := arises
  intro one
  have bound := one state reaches (.turn 0) rfl newest.token.key
  have member : (call.token, call.stage.phase) ∈ state.roster := by
    rcases present with ⟨wake, queued⟩ | ⟨due, sleeps⟩
    · have present : .task call wake ∈ state.ready := by
        rw [first]
        exact List.mem_cons_of_mem _ queued
      exact State.mem_roster_ready present
    · rw [← asleep] at sleeps
      exact State.mem_roster_sleeping sleeps
  have flies : 0 < state.inFlight newest.token.key := by
    unfold State.inFlight
    rw [List.countP_pos_iff]
    refine ⟨_, member, ?_⟩
    rw [sameKey, stage, beq_self_eq_true]
    rfl
  have begins : state.begins newest.token.key (.turn 0 : Occurrence World Request) = 1 := by
    simp only [State.begins, first, List.getElem?_cons_zero]
    exact if_pos ⟨trivial, Stage.isDebouncing_iff.mpr ripe, current⟩
  omega

theorem overlap_waiting {ticks : Option Nat}
    (arises : Arises (.free behaviour settings)
      (.task newest .elapsed :: (Place.waiting clock call ticks).items)
      (Place.waiting clock call ticks).sleepers clock newest.token here)
    (ripe : newest.stage = .debouncing) (stage : call.stage = .correlating inner)
    (sameKey : call.token.key = newest.token.key) : ¬ OneInFlight behaviour settings := by
  refine overlap arises ripe ?_ stage sameKey
  rcases Place.waiting_own clock call ticks with ⟨wake, here⟩ | ⟨due, here⟩
  · rw [here]
    exact Or.inl ⟨wake, List.mem_singleton_self _⟩
  · rw [here]
    exact Or.inr ⟨due, List.mem_singleton_self _⟩

theorem overlap_before {start : Nat} {due : Option Nat}
    (arises : Arises (.free behaviour settings) [] [⟨call, due⟩, ⟨newest, some start⟩] clock
      newest.token here)
    (later : clock < start) (late : ∀ stop, due = some stop → start < stop)
    (ripe : newest.stage = .debouncing) (stage : call.stage = .correlating inner)
    (sameKey : call.token.key = newest.token.key) : ¬ OneInFlight behaviour settings :=
  overlap (arises.wake_second later late) ripe (Or.inr ⟨due, List.mem_singleton_self _⟩) stage
    sameKey

theorem overlap_after {start : Nat} {due : Option Nat}
    (arises : Arises (.free behaviour settings) [] [⟨newest, some start⟩, ⟨call, due⟩] clock
      newest.token here)
    (later : clock < start) (late : ∀ stop, due = some stop → start ≤ stop)
    (ripe : newest.stage = .debouncing) (stage : call.stage = .correlating inner)
    (sameKey : call.token.key = newest.token.key) : ¬ OneInFlight behaviour settings := by
  by_cases together : due = some start
  · rw [together] at arises
    exact overlap (arises.wake_both later) ripe (Or.inl ⟨.elapsed, List.mem_singleton_self _⟩) stage
      sameKey
  · have past (stop : Nat) (same : due = some stop) : start < stop := by
      apply Nat.lt_of_le_of_ne (late stop same)
      rintro rfl
      exact together same
    exact overlap (arises.wake_first later past) ripe (Or.inr ⟨due, List.mem_singleton_self _⟩)
      stage sameKey

/-- A call has its turn just before the newest task, and waits once more. -/
theorem overlap_ready {left : Nat} (overstays : Overstays behaviour left inner)
    (arises : Arises (.free behaviour settings) [.task call .elapsed, .task newest .elapsed] [] clock
      newest.token here)
    (ripe : newest.stage = .debouncing) (stage : call.stage = .correlating inner)
    (sameKey : call.token.key = newest.token.key) : ¬ OneInFlight behaviour settings := by
  cases overstays with
  | sleeps world move => exact overlap_waiting (arises.callIn stage move) ripe rfl sameKey
  | waits world move _late => exact overlap_waiting (arises.callIn stage move) ripe rfl sameKey
  | lingers world move _rest => exact overlap_waiting (arises.callIn stage move) ripe rfl sameKey

theorem overlap_late {left : Nat} {world : World} {ticks : Option Nat} {next : Inner}
    (arises : Arises (.free behaviour settings) [.task call .elapsed]
      [⟨newest, some (clock + left)⟩] clock newest.token here)
    (lasting : 0 < left) (ripe : newest.stage = .debouncing)
    (stage : call.stage = .correlating inner) (sameKey : call.token.key = newest.token.key)
    (move : (behaviour.resume world inner .elapsed).move = .wait ticks next)
    (late : ∀ count, ticks = some count → left ≤ count) : ¬ OneInFlight behaviour settings := by
  have called := arises.callIn stage move
  have lasts : ticks ≠ some 0 := by
    intro zero
    have none := late 0 zero
    omega
  simp only [Place.waiting, if_neg lasts] at called
  have sleeps : Arises (.free behaviour settings) []
      [⟨newest, some (clock + left)⟩,
        ⟨{ call with stage := .correlating next }, ticks.map fun ticks => clock + ticks⟩]
      clock newest.token _ := called
  have later : clock < clock + left := by omega
  refine overlap_after sleeps later ?_ ripe rfl sameKey
  intro stop stops
  obtain ⟨count, counted, rfl⟩ := Option.map_eq_some_iff.mp stops
  have bound := late count counted
  omega

/-- A call that overstays goes on until the newest task wakes. -/
theorem overlap_lingering {left : Nat} (overstays : Overstays behaviour left inner)
    (arises : Arises (.free behaviour settings) [.task call .elapsed]
      [⟨newest, some (clock + left)⟩] clock newest.token here)
    (lasting : 0 < left) (ripe : newest.stage = .debouncing)
    (stage : call.stage = .correlating inner) (sameKey : call.token.key = newest.token.key) :
    ¬ OneInFlight behaviour settings := by
  induction overstays generalizing call clock here with
  | sleeps world move =>
      exact overlap_late arises lasting ripe stage sameKey move (by simp)
  | waits world move late =>
      apply overlap_late arises lasting ripe stage sameKey move
      intro count same
      rw [← Option.some.inj same]
      exact late
  | @lingers world left ticks inner next move rest ih =>
      by_cases late : left ≤ ticks
      · apply overlap_late arises lasting ripe stage sameKey move
        intro count same
        rw [← Option.some.inj same]
        exact late
      · have called := arises.callIn stage move
        cases ticks with
        | zero => exact ih called lasting rfl sameKey
        | succ ticks =>
            have sleeps : Arises (.free behaviour settings) []
                [⟨newest, some (clock + left)⟩,
                  ⟨{ call with stage := .correlating next }, some (clock + (ticks + 1))⟩]
                clock newest.token _ := called
            have soon : clock < clock + (ticks + 1) := by omega
            have rest : clock + left = clock + (ticks + 1) + (left - (ticks + 1)) := by omega
            have woken := sleeps.wake_second soon (by
              intro stop same
              have bound := Option.some.inj same
              omega)
            rw [rest] at woken
            exact ih woken (by omega) rfl sameKey

theorem overlap_outlasting {debounce : Nat} (debounced : settings.debounce = some (.ticks debounce))
    {world : World} {ticks : Option Nat} {next : Inner}
    (arises : Arises (.free behaviour settings) [.task call .cancelled, .task newest .elapsed] [] clock
      newest.token here)
    (fresh : newest.stage = .scheduled) (stage : call.stage = .correlating inner)
    (sameKey : call.token.key = newest.token.key)
    (move : (behaviour.resume world inner .cancelled).move = .wait ticks next)
    (late : ∀ count, ticks = some count → debounce < count) :
    ¬ OneInFlight behaviour settings := by
  have called := arises.callIn stage move
  have lasts : ticks ≠ some 0 := by
    intro zero
    have none := late 0 zero
    omega
  simp only [Place.waiting, if_neg lasts] at called
  have waits := Arises.debounce debounced called fresh
  cases debounce with
  | zero => exact overlap waits rfl (Or.inr ⟨_, List.mem_singleton_self _⟩) rfl sameKey
  | succ debounce =>
      have sleeps : Arises (.free behaviour settings) []
          [⟨{ call with stage := .correlating next }, ticks.map fun ticks => clock + ticks⟩,
            ⟨{ newest with stage := .debouncing }, some (clock + (debounce + 1))⟩]
          clock newest.token _ := waits
      have later : clock < clock + (debounce + 1) := by omega
      refine overlap_before sleeps later ?_ rfl rfl sameKey
      intro stop stops
      obtain ⟨count, counted, rfl⟩ := Option.map_eq_some_iff.mp stops
      have bound := late count counted
      omega

/-- A call that is cancelled outlasts the debounce of the task that is scheduled thereupon. -/
theorem overlap_cancelled {debounce : Nat} (debounced : settings.debounce = some (.ticks debounce))
    (overruns : Overruns behaviour debounce inner)
    (arises : Arises (.free behaviour settings) [.task call .cancelled, .task newest .elapsed] [] clock
      newest.token here)
    (fresh : newest.stage = .scheduled) (stage : call.stage = .correlating inner)
    (sameKey : call.token.key = newest.token.key) : ¬ OneInFlight behaviour settings := by
  cases overruns with
  | sleeps world move =>
      exact overlap_outlasting debounced arises fresh stage sameKey move (by simp)
  | waits world move late =>
      apply overlap_outlasting debounced arises fresh stage sameKey move
      intro count same
      rw [← Option.some.inj same]
      exact late
  | @lingers world ticks next move rest =>
      by_cases late : debounce < ticks
      · apply overlap_outlasting debounced arises fresh stage sameKey move
        intro count same
        rw [← Option.some.inj same]
        exact late
      · have waits := Arises.debounce debounced (arises.callIn stage move) fresh
        cases debounce with
        | zero =>
            have none : ticks = 0 := by omega
            rw [none] at waits
            exact overlap_ready rest waits rfl rfl sameKey
        | succ debounce =>
            have lasting : 0 < debounce + 1 := Nat.succ_pos debounce
            cases ticks with
            | zero => exact overlap_lingering rest waits lasting rfl rfl sameKey
            | succ ticks =>
                have sleeps : Arises (.free behaviour settings) []
                    [⟨{ call with stage := .correlating next }, some (clock + (ticks + 1))⟩,
                      ⟨{ newest with stage := .debouncing }, some (clock + (debounce + 1))⟩]
                    clock newest.token _ := waits
                have soon : clock < clock + (ticks + 1) := by omega
                by_cases together : debounce = ticks
                · rw [together] at sleeps
                  exact overlap_ready rest (sleeps.wake_both soon) rfl rfl sameKey
                · have remains : clock + (debounce + 1) =
                      clock + (ticks + 1) + (debounce + 1 - (ticks + 1)) := by omega
                  have woken := sleeps.wake_first soon (by
                    intro stop same
                    have bound := Option.some.inj same
                    omega)
                  rw [remains] at woken
                  have left : 0 < debounce + 1 - (ticks + 1) := by omega
                  exact overlap_lingering rest woken left rfl rfl sameKey

end

/-! ### When calls are kept apart -/

/-- Where a call that is cancelled may not end in time, calls for its key overlap. -/
theorem endsInTime_of_oneInFlight (calm : settings.Calm) {debounce : Nat}
    (debounced : settings.debounce = some (.ticks debounce))
    (one : OneInFlight behaviour settings) : EndsInTime behaviour debounce := by
  intro ticks inner attained overruns
  obtain ⟨task, clock, _here, stage, arises⟩ := attained.arises calm debounced
  obtain ⟨state, reaches, ready, sleeping, _now, counts, _rest⟩ := arises
  obtain ⟨queued, asleep⟩ := supersede_only rfl (Place.waiting_own clock task ticks) ready
    sleeping counts
  have triggered : (Drive.free behaviour settings).reach _ :=
    reaches.trigger task.token.key task.request
  have second := arises_trigger triggered
  change Arises (.free behaviour settings)
    ((state.cancelKey task.token.key).ready ++ _) (state.cancelKey task.token.key).sleeping _ _ _
    at second
  rw [queued, asleep] at second
  exact overlap_cancelled debounced overruns second rfl stage rfl one

end

/-- At most one call is in flight per key if and only if the debounce never ends or each call that is
cancelled where it can wait ends in time. -/
theorem oneInFlight_iff (behaviour : Behaviour World Note Request Inner) (debounce : Option Span)
    (statuses results : Bool) :
    OneInFlight behaviour (.recording debounce statuses results) ↔
      ∀ ticks, debounce = some (.ticks ticks) → EndsInTime behaviour ticks := by
  constructor
  · intro one ticks debounced
    exact endsInTime_of_oneInFlight (Settings.recording_calm debounce statuses results) debounced
      one
  · intro inTime
    by_cases ends : ∃ ticks, debounce = some (.ticks ticks)
    · obtain ⟨ticks, debounced⟩ := ends
      exact oneInFlight_of_endsInTime debounced (inTime ticks debounced)
    · exact oneInFlight_of_endless fun ticks debounced => ends ⟨ticks, debounced⟩

/-- A call holds on for five ticks after it is cancelled, while the next one begins at once. -/
theorem planned_overlap :
    let settings := Settings.recording (some (.ticks 0)) true true
    let source : Path := { root := "", parts := ["main.c"] }
    let empty : Ending := .result { sourceName := "main.c", entries := [] }
    let script : List (Operation Plan) :=
      [.trigger "k" source ⟨"old", .ticks 10, empty, some (.ticks 5)⟩, .advance 1,
        .trigger "k" source ⟨"new", .ticks 10, empty, none⟩, .advance 1]
    ∃ state, Reaches (planned Unit).toBehaviour settings state ∧
      state = performAll (planned Unit) (State.initial settings ()) script ∧
        state.inFlight "k" = 2 := by
  intro settings source empty script
  have kept : ∀ operation ∈ script, ∀ key, operation ≠ .forget key := by
    intro operation member key same
    rw [same] at member
    simp [script] at member
  have reaches : Reaches (planned Unit).toBehaviour settings
      (performAll (planned Unit) (State.initial settings ()) script) :=
    (Reaches.initial ()).performAll script kept
  have flies : (performAll (planned Unit) (State.initial settings ()) script).inFlight "k" = 2 := by
    decide +kernel
  exact ⟨_, reaches, rfl, flies⟩

end ListingAtlas.Session
