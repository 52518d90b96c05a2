import ListingAtlas.Proofs.Session.Calls

/-!
Where tasks stand: in the queue, asleep until a tick, or among those that have ended. A turn takes a
task from the front of the queue and puts it at the end of one of the three; calls and time move
others from one to another.
-/

namespace ListingAtlas.Session

variable {World Note Request Inner : Type}

inductive Place (Request Inner : Type) where
  | queued (task : Task Request Inner) (wake : Wake)
  | asleep (task : Task Request Inner) (due : Option Nat)
  | ended (outcome : Outcome)

namespace Place

def items : Place Request Inner → List (Item Request Inner)
  | .queued task wake => [.task task wake]
  | _ => []

def sleepers : Place Request Inner → List (Sleeper Request Inner)
  | .asleep task due => [⟨task, due⟩]
  | _ => []

def endings (token : Token) : Place Request Inner → List Finished
  | .ended outcome => [⟨token, outcome⟩]
  | _ => []

/-- Where a task goes that waits: for no time to the end of the queue, else to sleep. -/
def waiting (clock : Nat) (task : Task Request Inner) (ticks : Option Nat) :
    Place Request Inner :=
  if ticks = some 0 then .queued task .elapsed
  else .asleep task (ticks.map fun ticks => clock + ticks)

theorem waiting_zero (clock : Nat) (task : Task Request Inner) :
    waiting clock task (some 0) = .queued task .elapsed := rfl

theorem waiting_pos (clock : Nat) (task : Task Request Inner) {ticks : Nat} (lasting : 0 < ticks) :
    waiting clock task (some ticks) = .asleep task (some (clock + ticks)) := by
  have notZero : ¬ some ticks = some 0 := by
    rw [Option.some.injEq]
    omega
  rw [waiting, if_neg notZero]
  rfl

end Place

/-! ### Turns -/

/-- A task with a token is put at a place, and no other moves. -/
structure Moved (before after : State World Note Request Inner) (token : Token)
    (place : Place Request Inner) : Prop where
  ready : after.ready = before.ready ++ place.items
  sleeping : after.sleeping = before.sleeping ++ place.sleepers
  finished : after.finished = before.finished ++ place.endings token

namespace State

theorem wait_moved (state : State World Note Request Inner) (task : Task Request Inner)
    (ticks : Option Nat) :
    Moved state (state.wait task ticks) task.token (.waiting state.clock task ticks) := by
  rw [wait_eq, Place.waiting]
  by_cases zero : ticks = some 0
  · simp only [if_pos zero]
    exact ⟨rfl, rfl, (List.append_nil _).symm⟩
  · simp only [if_neg zero]
    exact ⟨rfl, rfl, (List.append_nil _).symm⟩

theorem finish_moved (state : State World Note Request Inner) (token : Token)
    (outcome : Outcome) : Moved state (state.finish token outcome) token (.ended outcome) :=
  ⟨(List.append_nil _).symm, (List.append_nil _).symm, rfl⟩

theorem fail_moved (state : State World Note Request Inner) (token : Token)
    (failure : Failure) :
    ∃ outcome : Outcome, (state.settings.Calm → outcome = .nothing) ∧
      Moved state (state.fail token failure) token (.ended outcome) := by
  by_cases current : state.registry.isCurrent token = true
  · obtain ⟨outcome, _kept, calm, same⟩ := state.exists_fail current failure
    rw [same]
    exact ⟨outcome, calm, (List.append_nil _).symm, (List.append_nil _).symm, rfl⟩
  · rw [fail_stale _ _ _ current]
    exact ⟨.nothing, fun _calm => rfl, (List.append_nil _).symm, (List.append_nil _).symm, rfl⟩

theorem deliver_moved (state : State World Note Request Inner) (token : Token)
    (correlation : Correlation) :
    ∃ outcome : Outcome, (state.settings.Calm → outcome =
        if state.registry.isCurrent token then .delivered correlation else .nothing) ∧
      Moved state (state.deliver token correlation) token (.ended outcome) := by
  by_cases current : state.registry.isCurrent token = true
  · obtain ⟨outcome, _said, _kept, calm, _told, _word, _which, same⟩ :=
      state.exists_deliver current correlation
    rw [same, if_pos current]
    exact ⟨outcome, calm, (List.append_nil _).symm, (List.append_nil _).symm, rfl⟩
  · rw [deliver_stale _ _ _ current, if_neg current]
    exact ⟨.nothing, fun _calm => rfl, (List.append_nil _).symm, (List.append_nil _).symm, rfl⟩

end State

/-- Where a stretch of a correlator leads its task. -/
inductive Led (clock : Nat) (task : Task Request Inner) : Move Inner → Place Request Inner → Prop
  | wait (ticks : Option Nat) (inner : Inner) :
      Led clock task (.wait ticks inner)
        (.waiting clock { task with stage := .correlating inner } ticks)
  | finish (ending : Ending) (outcome : Outcome) :
      Led clock task (.finish ending) (.ended outcome)

/-- Where a turn leads a task. -/
inductive Goes (behaviour : Behaviour World Note Request Inner)
    (before : State World Note Request Inner) (task : Task Request Inner) (wake : Wake) :
    Place Request Inner → Prop
  | debounce (ticks : Option Nat) (stage : task.stage = .scheduled) (elapsed : wake = .elapsed)
      (agreed : before.settings.debounce = ticks.map Span.ticks) :
      Goes behaviour before task wake
        (.waiting before.clock { task with stage := .debouncing } ticks)
  | start (place : Place Request Inner) (stage : task.stage = .debouncing)
      (elapsed : wake = .elapsed) (current : before.registry.isCurrent task.token = true)
      (led : Led before.clock task (behaviour.start before.world task.request task.token).move
        place) :
      Goes behaviour before task wake place
  | resume (place : Place Request Inner) (inner : Inner) (stage : task.stage = .correlating inner)
      (led : Led before.clock task (behaviour.resume before.world inner wake).move place) :
      Goes behaviour before task wake place
  | drop (outcome : Outcome) (early : ∀ inner, task.stage ≠ .correlating inner) :
      Goes behaviour before task wake (.ended outcome)

namespace State

theorem advanceBy_moved (state : State World Note Request Inner) (task : Task Request Inner)
    (progress : Progress World Note Inner) :
    ∃ place, Led state.clock task progress.move place ∧
      Moved state (state.advanceBy task progress) task.token place := by
  have unnoted {after : State World Note Request Inner} {place : Place Request Inner}
      (moved : Moved (state.noted progress) after task.token place) :
      Moved state after task.token place := ⟨moved.ready, moved.sleeping, moved.finished⟩
  cases move : progress.move with
  | wait ticks inner =>
      rw [advanceBy_wait state task progress move]
      exact ⟨_, .wait ticks inner, unnoted (wait_moved _ _ _)⟩
  | finish ending =>
      cases ending with
      | cancelled =>
          rw [advanceBy_cancelled state task progress move]
          exact ⟨_, .finish _ _, unnoted (finish_moved _ _ _)⟩
      | wordless isExpected escape =>
          rw [advanceBy_wordless state task progress move]
          have moved := finish_moved ((state.noted progress).log
            (wordlessRecords task.token.key isExpected)) task.token escape.outcome
          exact ⟨_, .finish _ _, moved.ready, moved.sleeping, moved.finished⟩
      | failure failure =>
          rw [advanceBy_failure state task progress move]
          obtain ⟨outcome, _calm, moved⟩ := fail_moved (state.noted progress) task.token failure
          exact ⟨_, .finish _ outcome, unnoted moved⟩
      | result correlation =>
          rw [advanceBy_result state task progress move]
          obtain ⟨outcome, _calm, moved⟩ :=
            deliver_moved (state.noted progress) task.token correlation
          exact ⟨_, .finish _ outcome, unnoted moved⟩

theorem debounce_moved (behaviour : Behaviour World Note Request Inner)
    (state : State World Note Request Inner) (task : Task Request Inner)
    (stage : task.stage = .scheduled) :
    ∃ place, Goes behaviour state task .elapsed place ∧
      Moved state (state.debounce task) task.token place := by
  have early (inner : Inner) : task.stage ≠ .correlating inner := by
    rw [stage]
    simp
  unfold debounce
  cases agreed : state.settings.debounce with
  | none => exact ⟨_, .debounce none stage rfl agreed, wait_moved _ _ _⟩
  | some span =>
      cases span with
      | ticks count => exact ⟨_, .debounce (some count) stage rfl agreed, wait_moved _ _ _⟩
      | immeasurable => exact ⟨_, .drop _ early, finish_moved _ _ _⟩

theorem runTask_moved (behaviour : Behaviour World Note Request Inner)
    (state : State World Note Request Inner) (task : Task Request Inner) (wake : Wake) :
    ∃ place, Goes behaviour state task wake place ∧
      Moved state (runTask behaviour state task wake) task.token place := by
  cases stage : task.stage with
  | scheduled =>
      have early (inner : Inner) : task.stage ≠ .correlating inner := by
        rw [stage]
        simp
      cases wake with
      | cancelled =>
          simp only [runTask, stage]
          exact ⟨_, .drop _ early, finish_moved _ _ _⟩
      | elapsed =>
          simp only [runTask, stage]
          exact debounce_moved behaviour state task stage
  | debouncing =>
      have early (inner : Inner) : task.stage ≠ .correlating inner := by
        rw [stage]
        simp
      cases wake with
      | cancelled =>
          simp only [runTask, stage]
          exact ⟨_, .drop _ early, finish_moved _ _ _⟩
      | elapsed =>
          simp only [runTask, stage]
          by_cases current : state.registry.isCurrent task.token = true
          · rw [if_pos current]
            unfold tellStatus
            split
            · rename_i escape _raised
              have moved := finish_moved (state.setStatus .recompiling "") task.token escape.outcome
              exact ⟨_, .drop _ early, moved.ready, moved.sleeping, moved.finished⟩
            · obtain ⟨place, led, moved⟩ := advanceBy_moved (state.setStatus .recompiling "") task
                (behaviour.start state.world task.request task.token)
              exact ⟨place, .start place stage rfl current led,
                moved.ready, moved.sleeping, moved.finished⟩
          · rw [if_neg current]
            exact ⟨_, .drop _ early, finish_moved _ _ _⟩
  | correlating inner =>
      simp only [runTask, stage]
      obtain ⟨place, led, moved⟩ := advanceBy_moved state task
        (behaviour.resume state.world inner wake)
      exact ⟨place, .resume place inner stage led, moved⟩

/-! ### Calls -/

/-- Superseding a key marks its token and asks the newest task of the key to stop, if there is one. -/
theorem supersede_cases (state : State World Note Request Inner) (key : String) :
    ∃ registry : Registry, registry.tasks = state.registry.tasks ∧
      (state.registry.tasks.get? key = none ∧ state.supersede key = { state with registry } ∨
        ∃ generation, state.registry.tasks.get? key = some generation ∧
          state.supersede key = cancelTask { state with registry } generation) := by
  unfold supersede
  cases newest : state.registry.tokens.get? key with
  | none =>
      refine ⟨state.registry, rfl, ?_⟩
      cases found : state.registry.tasks.get? key with
      | none => exact Or.inl ⟨rfl, by simp only [found]⟩
      | some generation => exact Or.inr ⟨generation, rfl, by simp only [found]⟩
  | some token =>
      refine ⟨{ state.registry with tokens := state.registry.tokens.insert key token.cancel }, rfl,
        ?_⟩
      cases found : state.registry.tasks.get? key with
      | none => exact Or.inl ⟨rfl, by simp only [found]⟩
      | some generation => exact Or.inr ⟨generation, rfl, by simp only [found]⟩

end State

/-! ### The places of a generation -/

def Item.place? (generation : Int) : Item Request Inner → Option (Place Request Inner)
  | .task member wake =>
      if member.token.generation = generation then some (.queued member wake) else none
  | .closing => none

def Sleeper.place? (generation : Int) (sleeper : Sleeper Request Inner) :
    Option (Place Request Inner) :=
  if sleeper.task.token.generation = generation then some (.asleep sleeper.task sleeper.due)
  else none

def Finished.place? (generation : Int) (finished : Finished) : Option (Place Request Inner) :=
  if finished.token.generation = generation then some (.ended finished.outcome) else none

/-- Where the tasks of a generation stand; there is never more than one. -/
def State.placesOf (state : State World Note Request Inner) (generation : Int) :
    List (Place Request Inner) :=
  state.ready.filterMap (Item.place? generation) ++
    state.sleeping.filterMap (Sleeper.place? generation) ++
    state.finished.filterMap (Finished.place? generation)

/-- Whether a place is one for the task with a token. -/
def Place.Of (token : Token) : Place Request Inner → Prop
  | .queued task _ => task.token = token
  | .asleep task _ => task.token = token
  | .ended _ => True

theorem Place.of_waiting (clock : Nat) (task : Task Request Inner) (ticks : Option Nat) :
    (Place.waiting clock task ticks).Of task.token := by
  unfold waiting
  split <;> exact rfl

theorem Led.of {clock : Nat} {task : Task Request Inner} {move : Move Inner}
    {place : Place Request Inner} (led : Led clock task move place) : place.Of task.token := by
  cases led with
  | wait ticks inner => exact Place.of_waiting clock { task with stage := .correlating inner } ticks
  | finish ending outcome => exact trivial

theorem Goes.of {behaviour : Behaviour World Note Request Inner}
    {before : State World Note Request Inner} {task : Task Request Inner} {wake : Wake}
    {place : Place Request Inner} (goes : Goes behaviour before task wake place) :
    place.Of task.token := by
  cases goes with
  | debounce ticks stage elapsed agreed =>
      exact Place.of_waiting before.clock { task with stage := .debouncing } ticks
  | start _place stage elapsed current led => exact led.of
  | resume _place inner stage led => exact led.of
  | drop outcome early => exact trivial

/-! ### Places and phases -/

/-- Whether a place is where a task of the roster stands. -/
def Place.Shows (entry : Token × Phase) : Place Request Inner → Prop
  | .queued task _ => entry = (task.token, task.stage.phase)
  | .asleep task _ => entry = (task.token, task.stage.phase)
  | .ended outcome => entry.2 = .ended outcome

theorem State.exists_place {state : State World Note Request Inner} {entry : Token × Phase}
    (member : entry ∈ state.roster) :
    ∃ place ∈ state.placesOf entry.1.generation, place.Shows entry := by
  unfold roster at member
  rw [List.mem_append, List.mem_append] at member
  rcases member with (queued | asleep) | ended
  · obtain ⟨item, present, made⟩ := List.mem_filterMap.mp queued
    cases item with
    | closing => cases made
    | task task wake =>
        rw [← Option.some.inj made]
        have here : (Item.task task wake).place? task.token.generation =
            some (.queued task wake) := if_pos rfl
        exact ⟨_, List.mem_append_left _ (List.mem_append_left _
          (List.mem_filterMap.mpr ⟨_, present, here⟩)), rfl⟩
  · obtain ⟨sleeper, present, rfl⟩ := List.mem_map.mp asleep
    have here : sleeper.place? sleeper.task.token.generation =
        some (.asleep sleeper.task sleeper.due) := if_pos rfl
    exact ⟨_, List.mem_append_left _ (List.mem_append_right _
      (List.mem_filterMap.mpr ⟨_, present, here⟩)), rfl⟩
  · obtain ⟨finished, present, rfl⟩ := List.mem_map.mp ended
    have here : finished.place? finished.token.generation =
        some (Place.ended (finished.outcome) : Place Request Inner) := if_pos rfl
    exact ⟨_, List.mem_append_right _ (List.mem_filterMap.mpr ⟨_, present, here⟩), rfl⟩

theorem State.exists_entry {state : State World Note Request Inner} {generation : Int}
    {place : Place Request Inner} (member : place ∈ state.placesOf generation) :
    ∃ entry ∈ state.roster, entry.1.generation = generation ∧ place.Shows entry := by
  unfold placesOf at member
  rw [List.mem_append, List.mem_append] at member
  rcases member with (queued | asleep) | ended
  · obtain ⟨item, present, made⟩ := List.mem_filterMap.mp queued
    cases item with
    | closing => cases made
    | task task wake =>
        simp only [Item.place?] at made
        split at made
        · rename_i named
          rw [← Option.some.inj made]
          exact ⟨_, List.mem_append_left _ (List.mem_append_left _
            (List.mem_filterMap.mpr ⟨_, present, rfl⟩)), named, rfl⟩
        · cases made
  · obtain ⟨sleeper, present, made⟩ := List.mem_filterMap.mp asleep
    unfold Sleeper.place? at made
    split at made
    · rename_i named
      rw [← Option.some.inj made]
      exact ⟨_, List.mem_append_left _ (List.mem_append_right _
        (List.mem_map_of_mem present)), named, rfl⟩
    · cases made
  · obtain ⟨finished, present, made⟩ := List.mem_filterMap.mp ended
    unfold Finished.place? at made
    split at made
    · rename_i named
      rw [← Option.some.inj made]
      exact ⟨_, List.mem_append_right _ (List.mem_map_of_mem present), named, rfl⟩
    · cases made

namespace Moved

variable {before after : State World Note Request Inner} {token : Token}
  {place : Place Request Inner}

theorem placesOf_self (moved : Moved before after token place) (own : place.Of token) :
    (after.placesOf token.generation).Perm (place :: before.placesOf token.generation) := by
  unfold State.placesOf
  rw [moved.ready, moved.sleeping, moved.finished]
  simp only [List.filterMap_append]
  cases place with
  | queued task wake =>
      have named : task.token = token := own
      simp only [Place.items, Place.sleepers, Place.endings, List.filterMap_cons, Item.place?,
        named, if_pos, List.filterMap_nil, List.append_nil, List.append_assoc, List.cons_append,
        List.nil_append]
      exact List.perm_middle
  | asleep task due =>
      have named : task.token = token := own
      simp only [Place.items, Place.sleepers, Place.endings, List.filterMap_cons, Sleeper.place?,
        named, if_pos, List.filterMap_nil, List.append_nil, List.append_assoc, List.cons_append,
        List.nil_append]
      rw [← List.append_assoc]
      apply List.perm_middle.trans
      rw [List.append_assoc]
  | ended outcome =>
      simp only [Place.items, Place.sleepers, Place.endings, List.filterMap_cons, Finished.place?,
        if_pos, List.filterMap_nil, List.append_nil, ← List.append_assoc]
      exact List.perm_append_singleton _ _

theorem placesOf_other (moved : Moved before after token place) (own : place.Of token)
    {generation : Int} (other : token.generation ≠ generation) :
    after.placesOf generation = before.placesOf generation := by
  unfold State.placesOf
  rw [moved.ready, moved.sleeping, moved.finished]
  simp only [List.filterMap_append]
  cases place with
  | queued task wake =>
      have named : task.token = token := own
      simp [Place.items, Place.sleepers, Place.endings, Item.place?, named, other]
  | asleep task due =>
      have named : task.token = token := own
      simp [Place.items, Place.sleepers, Place.endings, Sleeper.place?, named, other]
  | ended outcome =>
      simp [Place.items, Place.sleepers, Place.endings, Finished.place?, other]

end Moved

namespace State

theorem taken_places (state : State World Note Request Inner) (generation : Int) {position : Nat}
    {item : Item Request Inner} (found : state.ready[position]? = some item) :
    (state.placesOf generation).Perm
      ((item.place? generation).toList ++ (state.taken position).placesOf generation) := by
  obtain ⟨within, same⟩ := List.getElem?_eq_some_iff.mp found
  have moved := (List.getElem_cons_eraseIdx_perm within).filterMap (Item.place? generation)
  rw [same] at moved
  have queue : (item.place? generation).toList ++
      (state.ready.eraseIdx position).filterMap (Item.place? generation) =
      (item :: state.ready.eraseIdx position).filterMap (Item.place? generation) := by
    rw [List.filterMap_cons]
    cases item.place? generation <;> rfl
  rw [← queue] at moved
  have whole := (moved.symm.append_right
    (state.sleeping.filterMap (Sleeper.place? generation))).append_right
      (state.finished.filterMap (Finished.place? generation))
  simp only [List.append_assoc] at whole
  simp only [placesOf, List.append_assoc]
  exact whole

/-! ### Waking -/

theorem places_woken (generation : Int) (wake : Wake) (items : List (Item Request Inner))
    (woken asleep : List (Sleeper Request Inner)) :
    (items ++ woken.map fun sleeper => Item.task sleeper.task wake).filterMap
        (Item.place? generation) ++ asleep.filterMap (Sleeper.place? generation) =
      items.filterMap (Item.place? generation) ++
        (woken.filterMap (fun sleeper => (Item.task sleeper.task wake).place? generation) ++
          asleep.filterMap (Sleeper.place? generation)) := by
  rw [List.filterMap_append, List.filterMap_map, List.append_assoc]
  rfl

theorem cancelTask_places (state : State World Note Request Inner) {cancelled generation : Int}
    (other : cancelled ≠ generation) :
    (state.cancelTask cancelled).placesOf generation = state.placesOf generation := by
  have queue : (state.ready.map (Item.cancelled cancelled)).filterMap (Item.place? generation) =
      state.ready.filterMap (Item.place? generation) := by
    rw [List.filterMap_map]
    congr 1
    funext item
    cases item with
    | closing => rfl
    | task task wake =>
        by_cases same : task.token.generation = generation
        · have different : ¬ generation = cancelled := fun equal => other equal.symm
          simp [Item.cancelled, Item.place?, same, different]
        · simp [Item.cancelled, Item.place?, same]
  have unmoved (sleeper : Sleeper Request Inner)
      (member : sleeper ∈ (state.sleeping.partition
        fun sleeper => sleeper.task.token.generation == cancelled).1) :
      (Item.task sleeper.task .cancelled).place? generation = none := by
    rw [List.partition_eq_filter_filter, List.mem_filter, beq_iff_eq] at member
    rw [Item.place?, if_neg]
    rw [member.2]
    exact other
  have woken : (state.sleeping.partition
      fun sleeper => sleeper.task.token.generation == cancelled).1.filterMap
        (fun sleeper => (Item.task sleeper.task .cancelled).place? generation) = [] :=
    List.filterMap_eq_nil_iff.mpr unmoved
  have asleep : ((state.sleeping.partition
      fun sleeper => sleeper.task.token.generation == cancelled).2.filterMap
        (Sleeper.place? generation)) = state.sleeping.filterMap (Sleeper.place? generation) := by
    rw [List.partition_eq_filter_filter, List.filterMap_filter]
    congr 1
    funext sleeper
    by_cases same : sleeper.task.token.generation = generation
    · have different : ¬ generation = cancelled := fun equal => other equal.symm
      simp [Sleeper.place?, same, different]
    · simp [Sleeper.place?, same]
  simp only [placesOf, cancelTask]
  rw [places_woken, queue, woken, asleep, List.nil_append]

theorem supersede_places (state : State World Note Request Inner) {key : String}
    {generation : Int} (other : state.registry.tasks.get? key ≠ some generation) :
    (state.supersede key).placesOf generation = state.placesOf generation := by
  obtain ⟨registry, _tasks, ⟨_none, same⟩ | ⟨cancelled, found, same⟩⟩ := supersede_cases state key
  · rw [same]
    rfl
  · rw [same]
    apply cancelTask_places
    intro equal
    rw [equal] at found
    exact other found

theorem schedule_places (state : State World Note Request Inner) {key : String}
    (request : Request) {generation : Int}
    (other : state.registry.tasks.get? key ≠ some generation)
    (known : generation ≠ state.registry.nextGeneration) :
    (state.schedule key request).placesOf generation = state.placesOf generation := by
  have sameNext := (supersede_quiet state key).nextGeneration
  rw [List.length_nil, Int.natCast_zero, Int.add_zero] at sameNext
  have different : ¬ state.registry.nextGeneration = generation := fun equal => known equal.symm
  rw [← supersede_places state other]
  simp [schedule, placesOf, Item.place?, Token.issue, sameNext, different]

end State

/-- Where a place is when the clock has got to a tick. -/
def Place.later (clock : Nat) : Place Request Inner → Place Request Inner
  | .asleep task due =>
      if State.isDue clock ⟨task, due⟩ then .queued task .elapsed else .asleep task due
  | place => place

/-- As time passes, those that are due become ready. -/
theorem State.tick_places (state : State World Note Request Inner) (generation : Int) :
    (state.tick.placesOf generation).Perm
      ((state.placesOf generation).map (Place.later (state.clock + 1))) := by
  have queue : (state.ready.filterMap (Item.place? generation)).map
      (Place.later (state.clock + 1)) = state.ready.filterMap (Item.place? generation) := by
    rw [List.map_filterMap]
    congr 1
    funext item
    cases item with
    | closing => rfl
    | task task wake =>
        simp only [Item.place?]
        split <;> rfl
  have ended : (state.finished.filterMap (Finished.place? generation)).map
      (Place.later (state.clock + 1)) =
        (state.finished.filterMap (Finished.place? generation) : List (Place Request Inner)) := by
    rw [List.map_filterMap]
    congr 1
    funext finished
    unfold Finished.place?
    split <;> rfl
  have woken (sleeper : Sleeper Request Inner)
      (member : sleeper ∈ (state.sleeping.partition (isDue (state.clock + 1))).1) :
      (sleeper.place? generation).map (Place.later (state.clock + 1)) =
        (Item.task sleeper.task .elapsed).place? generation := by
    rw [List.partition_eq_filter_filter, List.mem_filter] at member
    simp only [Sleeper.place?, Item.place?]
    split
    · rw [Option.map_some, Place.later, if_pos member.2]
    · rfl
  have asleep (sleeper : Sleeper Request Inner)
      (member : sleeper ∈ (state.sleeping.partition (isDue (state.clock + 1))).2) :
      (sleeper.place? generation).map (Place.later (state.clock + 1)) =
        sleeper.place? generation := by
    rw [List.partition_eq_filter_filter, List.mem_filter] at member
    have notDue : ¬ isDue (state.clock + 1) sleeper = true := by simpa using member.2
    simp only [Sleeper.place?]
    split
    · rw [Option.map_some, Place.later, if_neg notDue]
    · rfl
  have sleepers := (partition_perm (isDue (state.clock + 1)) state.sleeping).filterMap
    fun sleeper => (sleeper.place? generation).map (Place.later (state.clock + 1))
  rw [List.filterMap_append, List.filterMap_congr woken, List.filterMap_congr asleep,
    ← List.map_filterMap] at sleepers
  simp only [placesOf, tick, List.map_append, queue, ended]
  rw [places_woken]
  exact (sleepers.append_left _).append_right _

end ListingAtlas.Session
