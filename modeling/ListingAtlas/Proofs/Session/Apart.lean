import ListingAtlas.Proofs.Session.Leaving

/-!
Calls for a key stay apart if each that is cancelled ends in time. A call that does not count any
more for its key ends before a debounce is over that begins now, and before the task starts that
counts; where both fall on one tick, the order of the queue decides.
-/

namespace ListingAtlas.Session

variable {World Note Request Inner : Type}

/-- What may stand in the queue behind a task that counts: no call for its key, unless the task has
not begun to wait and the call knows that it is to stop. -/
def State.Precedes (state : State World Note Request Inner) (first second : Item Request Inner) :
    Prop :=
  ∀ newest wake call other, first = .task newest wake → second = .task call other →
    state.Counts newest.token → call.token.key = newest.token.key → call.stage.phase = .working →
      newest.stage ≠ .debouncing ∧ (newest.stage = .scheduled → other = .elapsed)

/-- What may have fallen asleep after a task that counts and waits for its call: only calls for its
key that wake before it does. -/
def State.Outsleeps (state : State World Note Request Inner)
    (first second : Sleeper Request Inner) : Prop :=
  state.Counts first.task.token → second.task.token.key = first.task.token.key →
    second.task.stage.phase = .working → first.task.stage = .debouncing →
      ∀ start stop, first.due = some start → second.due = some stop → stop < start

/-- Calls for a key are kept apart. -/
structure Apart (behaviour : Behaviour World Note Request Inner) (debounce : Nat)
    (state : State World Note Request Inner) : Prop where
  debounced : state.settings.debounce = some (.ticks debounce)
  named : ∀ task place key, Seats state task place →
    state.registry.tasks.get? key = some task.token.generation → task.token.key = key
  underway : ∀ task place, Seats state task place → state.Counts task.token →
    Underway behaviour state.clock place
  dismissed : ∀ task place, Seats state task place → ¬ state.Counts task.token →
    Dismissed behaviour debounce state.clock place
  single : ∀ first second one two, Seats state first one → Seats state second two →
    first.stage.phase = .working → second.stage.phase = .working →
      first.token.key = second.token.key → first.token.generation = second.token.generation
  ahead : ∀ newest call seat place opening, Seats state newest seat → Seats state call place →
    state.Counts newest.token → seat.opening? state.clock = some opening →
      call.token.key = newest.token.key → call.stage.phase = .working →
        Leaving behaviour state.clock opening place
  queue : state.ready.Pairwise state.Precedes
  sleepers : state.sleeping.Pairwise state.Outsleeps

theorem apart_initial (behaviour : Behaviour World Note Request Inner) {settings : Settings}
    {debounce : Nat} (debounced : settings.debounce = some (.ticks debounce)) (world : World) :
    Apart behaviour debounce
      (State.initial settings world : State World Note Request Inner) := by
  have nobody {task : Task Request Inner} {place : Place Request Inner} :
      ¬ Seats (State.initial settings world : State World Note Request Inner) task place := by
    intro seats
    cases seats with
    | queued present => cases present
    | asleep present => cases present
  exact
    { debounced
      named := fun _task _place _key seats => absurd seats nobody
      underway := fun _task _place seats => absurd seats nobody
      dismissed := fun _task _place seats => absurd seats nobody
      single := fun _first _second _one _two seats => absurd seats nobody
      ahead := fun _newest _call _seat _place _opening seats => absurd seats nobody
      queue := List.Pairwise.nil
      sleepers := List.Pairwise.nil }

section

variable {behaviour : Behaviour World Note Request Inner} {debounce : Nat}
  {state before after : State World Note Request Inner}

theorem Counts.unique {first second : Token} (one : state.Counts first)
    (two : state.Counts second) (sameKey : first.key = second.key) :
    first.generation = second.generation := by
  unfold State.Counts at one two
  rw [sameKey, two] at one
  exact (Option.some.inj one).symm

/-- Where nobody counts who did not before, what may stand behind whom stays so. -/
theorem State.Precedes.of_counts {first second : Item Request Inner}
    (precedes : before.Precedes first second)
    (counts : ∀ newest wake, first = .task newest wake → after.Counts newest.token →
      before.Counts newest.token) : after.Precedes first second := by
  intro newest wake call other here there counting
  exact precedes newest wake call other here there (counts newest wake here counting)

theorem State.Outsleeps.of_counts {first second : Sleeper Request Inner}
    (outsleeps : before.Outsleeps first second)
    (counts : after.Counts first.task.token → before.Counts first.task.token) :
    after.Outsleeps first second :=
  fun counting => outsleeps (counts counting)

theorem Apart.of_seats (apart : Apart behaviour debounce before)
    (settings : after.settings = before.settings) (clock : after.clock = before.clock)
    (still : ∀ task place, Seats after task place → Seats before task place)
    (queue : after.ready.Pairwise before.Precedes)
    (sleepers : after.sleeping.Pairwise before.Outsleeps)
    (tasks : ∀ task place key, Seats before task place →
      (after.registry.tasks.get? key = some task.token.generation ↔
        before.registry.tasks.get? key = some task.token.generation)) :
    Apart behaviour debounce after := by
  have counts {task : Task Request Inner} {place : Place Request Inner}
      (seats : Seats after task place) : after.Counts task.token ↔ before.Counts task.token :=
    tasks task place _ (still task place seats)
  refine
    { debounced := by rw [settings]; exact apart.debounced
      named := ?_, underway := ?_, dismissed := ?_, single := ?_, ahead := ?_, queue := ?_
      sleepers := ?_ }
  · intro task place key seats newest
    have kept := still task place seats
    exact apart.named task place key kept ((tasks task place key kept).mp newest)
  · intro task place seats counting
    rw [clock]
    exact apart.underway task place (still task place seats) ((counts seats).mp counting)
  · intro task place seats uncounted
    rw [counts seats] at uncounted
    rw [clock]
    exact apart.dismissed task place (still task place seats) uncounted
  · intro first second one two seatsOne seatsTwo
    exact apart.single first second one two (still _ _ seatsOne) (still _ _ seatsTwo)
  · intro newest call seat place opening seats others counting opens
    rw [clock] at opens ⊢
    exact apart.ahead newest call seat place opening (still _ _ seats) (still _ _ others)
      ((counts seats).mp counting) opens
  · apply queue.imp_of_mem
    intro first second present _other precedes
    refine precedes.of_counts fun newest wake here => ?_
    rw [here] at present
    exact (counts (.queued present)).mp
  · apply sleepers.imp_of_mem
    intro first second present _other outsleeps
    exact outsleeps.of_counts (counts (.asleep present)).mp

theorem Apart.of_sublist (apart : Apart behaviour debounce before)
    (settings : after.settings = before.settings) (clock : after.clock = before.clock)
    (ready : after.ready.Sublist before.ready)
    (sleeping : after.sleeping.Sublist before.sleeping)
    (tasks : ∀ task place key, Seats before task place →
      (after.registry.tasks.get? key = some task.token.generation ↔
        before.registry.tasks.get? key = some task.token.generation)) :
    Apart behaviour debounce after :=
  apart.of_seats settings clock (fun _task _place seats => seats.of_sublist ready sleeping)
    (apart.queue.sublist ready) (apart.sleepers.sublist sleeping) tasks

/-! ### Putting a task at a place -/

/-- A task can be put at a place without coming near the calls for its key. -/
structure Fits (behaviour : Behaviour World Note Request Inner) (debounce : Nat)
    (state : State World Note Request Inner) (task : Task Request Inner)
    (place : Place Request Inner) : Prop where
  named : ∀ key, state.registry.tasks.get? key = some task.token.generation →
    task.token.key = key
  underway : state.Counts task.token → Underway behaviour state.clock place
  dismissed : ¬ state.Counts task.token → Dismissed behaviour debounce state.clock place
  single : ∀ other seat, Seats state other seat → task.stage.phase = .working →
    other.stage.phase = .working → other.token.key ≠ task.token.key
  /-- It counts and stands before its call, which no other call outlasts. -/
  ahead : ∀ call seat opening, Seats state call seat → state.Counts task.token →
    place.opening? state.clock = some opening → call.token.key = task.token.key →
      call.stage.phase = .working → Leaving behaviour state.clock opening seat
  /-- It is in its call, which does not outlast what counts. -/
  behind : ∀ newest seat opening, Seats state newest seat → state.Counts newest.token →
    seat.opening? state.clock = some opening → task.token.key = newest.token.key →
      task.stage.phase = .working → Leaving behaviour state.clock opening place
  queue : ∀ wake, place = .queued task wake →
    ∀ item ∈ state.ready, state.Precedes item (.task task wake)
  sleepers : ∀ due, place = .asleep task due →
    ∀ sleeper ∈ state.sleeping, state.Outsleeps sleeper ⟨task, due⟩

/-- A task that has not begun its call may stand behind anyone. -/
theorem Fits.of_idle {task : Task Request Inner} {place : Place Request Inner}
    (idle : task.stage.phase ≠ .working)
    (named : ∀ key, state.registry.tasks.get? key = some task.token.generation →
      task.token.key = key)
    (underway : Underway behaviour state.clock place) (counts : state.Counts task.token)
    (ahead : ∀ call seat opening, Seats state call seat → place.opening? state.clock = some opening →
      call.token.key = task.token.key → call.stage.phase = .working →
        Leaving behaviour state.clock opening seat) :
    Fits behaviour debounce state task place where
  named := named
  underway := fun _counting => underway
  dismissed := fun uncounted => absurd counts uncounted
  single := fun _other _seat _seats working => absurd working idle
  ahead := fun call seat opening seats _counting => ahead call seat opening seats
  behind := fun _newest _seat _opening _seats _counting _opens _sameKey working =>
    absurd working idle
  queue := by
    intro _wake _here item _present newest before call other _first second _counting _sameKey working
    rw [Item.task.injEq] at second
    rw [← second.1] at working
    exact absurd working idle
  sleepers := fun _due _here _sleeper _present _counting _sameKey working => absurd working idle

theorem opening?_of_working {task : Task Request Inner} {place : Place Request Inner} {clock : Nat}
    (own : (∃ wake, place = .queued task wake) ∨ ∃ due, place = .asleep task due)
    (working : task.stage.phase = .working) : place.opening? clock = none := by
  have begun : ¬ task.stage.isDebouncing = true := by
    cases stage : task.stage with
    | correlating inner => exact Bool.false_ne_true
    | _ =>
        rw [stage] at working
        cases working
  rcases own with ⟨wake, rfl⟩ | ⟨due, rfl⟩
  · rw [Place.opening?, if_neg begun]
  · rw [Place.opening?, if_neg begun]

theorem Moved.seated {token : Token} {task other : Task Request Inner}
    {place seat : Place Request Inner} (moved : Moved before after token place)
    (own : (∃ wake, place = .queued task wake) ∨ ∃ due, place = .asleep task due)
    (seats : Seats after other seat) :
    Seats before other seat ∨ other = task ∧ seat = place := by
  rcases moved.seats seats with kept | same
  · exact Or.inl kept
  · refine Or.inr ⟨?_, same⟩
    cases seats with
    | queued present =>
        rcases own with ⟨wake, here⟩ | ⟨due, here⟩
        · exact (Place.queued.inj (same.trans here)).1
        · cases same.trans here
    | asleep present =>
        rcases own with ⟨wake, here⟩ | ⟨due, here⟩
        · cases same.trans here
        · exact (Place.asleep.inj (same.trans here)).1

section

variable {task : Task Request Inner} {place : Place Request Inner}

theorem Fits.queue_append (fits : Fits behaviour debounce before task place)
    (own : (∃ wake, place = .queued task wake) ∨ ∃ due, place = .asleep task due)
    (queue : before.ready.Pairwise before.Precedes) :
    (before.ready ++ place.items).Pairwise before.Precedes := by
  rcases own with ⟨wake, rfl⟩ | ⟨due, rfl⟩
  · rw [List.pairwise_append]
    refine ⟨queue, List.pairwise_singleton _ _, ?_⟩
    intro first kept second put
    rw [Place.items, List.mem_singleton] at put
    rw [put]
    exact fits.queue wake rfl first kept
  · have nothing : before.ready ++ (Place.asleep task due).items = before.ready :=
      List.append_nil _
    rw [nothing]
    exact queue

theorem Fits.sleepers_append (fits : Fits behaviour debounce before task place)
    (own : (∃ wake, place = .queued task wake) ∨ ∃ due, place = .asleep task due)
    (sleepers : before.sleeping.Pairwise before.Outsleeps) :
    (before.sleeping ++ place.sleepers).Pairwise before.Outsleeps := by
  rcases own with ⟨wake, rfl⟩ | ⟨due, rfl⟩
  · have nothing : before.sleeping ++ (Place.queued task wake).sleepers = before.sleeping :=
      List.append_nil _
    rw [nothing]
    exact sleepers
  · rw [List.pairwise_append]
    refine ⟨sleepers, List.pairwise_singleton _ _, ?_⟩
    intro first kept second put
    rw [Place.sleepers, List.mem_singleton] at put
    rw [put]
    exact fits.sleepers due rfl first kept

theorem Apart.put {token : Token} (apart : Apart behaviour debounce before)
    (moved : Moved before after token place)
    (own : (∃ wake, place = .queued task wake) ∨ ∃ due, place = .asleep task due)
    (settings : after.settings = before.settings) (clock : after.clock = before.clock)
    (tasks : after.registry.tasks = before.registry.tasks)
    (fits : Fits behaviour debounce before task place) : Apart behaviour debounce after := by
  have counts (token : Token) : after.Counts token ↔ before.Counts token := by
    unfold State.Counts
    rw [tasks]
  refine
    { debounced := by rw [settings]; exact apart.debounced
      named := ?_, underway := ?_, dismissed := ?_, single := ?_, ahead := ?_, queue := ?_
      sleepers := ?_ }
  · intro other seat key seats newest
    rw [tasks] at newest
    rcases moved.seated own seats with kept | ⟨rfl, rfl⟩
    · exact apart.named other seat key kept newest
    · exact fits.named key newest
  · intro other seat seats counting
    rw [clock]
    rcases moved.seated own seats with kept | ⟨rfl, rfl⟩
    · exact apart.underway other seat kept ((counts _).mp counting)
    · exact fits.underway ((counts _).mp counting)
  · intro other seat seats uncounted
    rw [counts] at uncounted
    rw [clock]
    rcases moved.seated own seats with kept | ⟨rfl, rfl⟩
    · exact apart.dismissed other seat kept uncounted
    · exact fits.dismissed uncounted
  · intro first second one two seatsOne seatsTwo working working' sameKey
    rcases moved.seated own seatsOne with kept | ⟨rfl, rfl⟩
    · rcases moved.seated own seatsTwo with kept' | ⟨rfl, rfl⟩
      · exact apart.single first second one two kept kept' working working' sameKey
      · exact absurd sameKey (fits.single first one kept working' working)
    · rcases moved.seated own seatsTwo with kept' | ⟨rfl, rfl⟩
      · exact absurd sameKey.symm (fits.single second two kept' working working')
      · rfl
  · intro newest call seat other opening seats others counting opens sameKey working
    rw [counts] at counting
    rw [clock] at opens ⊢
    rcases moved.seated own seats with kept | ⟨rfl, rfl⟩
    · rcases moved.seated own others with kept' | ⟨rfl, rfl⟩
      · exact apart.ahead newest call seat other opening kept kept' counting opens sameKey working
      · exact fits.behind newest seat opening kept counting opens sameKey working
    · rcases moved.seated own others with kept' | ⟨rfl, rfl⟩
      · exact fits.ahead call other opening kept' counting opens sameKey working
      · rw [opening?_of_working own working] at opens
        cases opens
  · rw [moved.ready]
    exact (fits.queue_append own apart.queue).imp fun precedes =>
      precedes.of_counts fun newest _wake _here => (counts newest.token).mp
  · rw [moved.sleeping]
    exact (fits.sleepers_append own apart.sleepers).imp fun outsleeps =>
      outsleeps.of_counts (counts _).mp

end

/-! ### Calls -/

/-- The task that counted for a key is told to stop, and counts no more. -/
structure Dismisses (before after : State World Note Request Inner) (key : String)
    (generation : Int) : Prop where
  newest : before.registry.tasks.get? key = some generation
  settings : after.settings = before.settings
  clock : after.clock = before.clock
  ready : after.ready = (before.cancelTask generation).ready
  sleeping : after.sleeping = (before.cancelTask generation).sleeping
  tasks : ∀ other named, after.registry.tasks.get? other = some named ↔
    other ≠ key ∧ before.registry.tasks.get? other = some named

section

variable {key : String} {generation : Int}

theorem Dismisses.counts (dismisses : Dismisses before after key generation) (token : Token) :
    after.Counts token ↔ token.key ≠ key ∧ before.Counts token :=
  dismisses.tasks token.key token.generation

/-- Whoever sits somewhere sat there before, but for the one who has been told to stop. -/
theorem Dismisses.traced (dismisses : Dismisses before after key generation)
    (apart : Apart behaviour debounce before) {task : Task Request Inner}
    {place : Place Request Inner} (seats : Seats after task place) :
    (Seats before task place ∧ task.token.generation ≠ generation) ∨
      task.token.generation = generation ∧ task.token.key = key ∧
        place = .queued task .cancelled ∧ ∃ former, Seats before task former := by
  have moved : Seats (before.cancelTask generation) task place :=
    seats.of_sublist (by rw [dismisses.ready]) (by rw [dismisses.sleeping])
  rcases seats_cancelTask moved with kept | ⟨named, here, former, kept⟩
  · exact Or.inl kept
  · refine Or.inr ⟨named, apart.named task former key kept ?_, here, former, kept⟩
    rw [dismisses.newest, named]

theorem Dismisses.seated (dismisses : Dismisses before after key generation)
    (apart : Apart behaviour debounce before) {task : Task Request Inner}
    {place : Place Request Inner} (seats : Seats after task place) :
    ∃ former, Seats before task former := by
  rcases dismisses.traced apart seats with ⟨kept, _other⟩ | ⟨_named, _sameKey, _here, former⟩
  · exact ⟨place, kept⟩
  · exact former

theorem Dismisses.unmoved (dismisses : Dismisses before after key generation)
    (apart : Apart behaviour debounce before) {task : Task Request Inner}
    {place : Place Request Inner} (seats : Seats after task place) (other : task.token.key ≠ key) :
    Seats before task place := by
  rcases dismisses.traced apart seats with ⟨kept, _other⟩ | ⟨_named, sameKey, _here, _former⟩
  · exact kept
  · exact absurd sameKey other

/-- Who does not count is dismissed, whether just now or before. -/
theorem Dismisses.dismissed (dismisses : Dismisses before after key generation)
    (apart : Apart behaviour debounce before) (inTime : EndsInTime behaviour debounce)
    {task : Task Request Inner} {place : Place Request Inner} (seats : Seats after task place)
    (uncounted : ¬ after.Counts task.token) :
    Dismissed behaviour debounce before.clock place := by
  rcases dismisses.traced apart seats with ⟨kept, other⟩ | ⟨named, sameKey, rfl, former, kept⟩
  · refine apart.dismissed task place kept fun counted => ?_
    have sameKey : task.token.key = key := by
      by_contra different
      exact uncounted ((dismisses.counts _).mpr ⟨different, counted⟩)
    unfold State.Counts at counted
    rw [sameKey, dismisses.newest] at counted
    exact other (Option.some.inj counted).symm
  · have counted : before.Counts task.token := by
      unfold State.Counts
      rw [sameKey, dismisses.newest, named]
    refine .asked fun inner stage => ?_
    obtain ⟨ticks, attained⟩ := (apart.underway task former kept counted).attained kept stage
    exact inTime ticks inner attained

/-- Those in the queue still come as they are to, also where one of them has been told to stop. -/
theorem Dismisses.precedes_cancelled (dismisses : Dismisses before after key generation)
    (apart : Apart behaviour debounce before) {first second : Item Request Inner}
    (present : second ∈ before.ready) (precedes : before.Precedes first second) :
    after.Precedes (first.cancelled generation) (second.cancelled generation) := by
  intro task wake call other same same' counting sameKey working
  cases first with
  | closing => cases same
  | task first earlier =>
      cases second with
      | closing => cases same'
      | task second later =>
          simp only [Item.cancelled, Item.task.injEq] at same same'
          obtain ⟨rfl, _⟩ := same
          obtain ⟨rfl, rfl⟩ := same'
          obtain ⟨different, counted⟩ := (dismisses.counts _).mp counting
          have unasked : ¬ (second.token.generation == generation) = true := by
            intro named
            rw [beq_iff_eq] at named
            have theirs := apart.named second _ key (.queued present) (by
              rw [dismisses.newest, named])
            exact different (sameKey.symm.trans theirs)
          rw [if_neg unasked]
          exact precedes first earlier second later rfl rfl counted sameKey working

/-- Whoever is woken to be told is behind nobody who counts for the same key. -/
theorem Dismisses.precedes_woken (dismisses : Dismisses before after key generation)
    (apart : Apart behaviour debounce before) (first : Item Request Inner)
    {sleeper : Sleeper Request Inner}
    (woken : sleeper ∈ before.sleeping.filter fun sleeper =>
      sleeper.task.token.generation == generation) :
    after.Precedes first (.task sleeper.task .cancelled) := by
  intro task wake call other _first same counting sameKey _working
  rw [List.mem_filter, beq_iff_eq] at woken
  have theirs := apart.named sleeper.task _ key (.asleep woken.1) (by
    rw [dismisses.newest, woken.2])
  rw [Item.task.injEq] at same
  rw [← same.1, theirs] at sameKey
  exact absurd sameKey.symm ((dismisses.counts _).mp counting).1

theorem Dismisses.queue (dismisses : Dismisses before after key generation)
    (apart : Apart behaviour debounce before) : after.ready.Pairwise after.Precedes := by
  rw [dismisses.ready, State.ready_cancelTask, List.pairwise_append]
  refine ⟨List.pairwise_map.mpr (apart.queue.imp_of_mem ?_), ?_, ?_⟩
  · intro first second _here present precedes
    exact dismisses.precedes_cancelled apart present precedes
  · rw [List.pairwise_map]
    apply List.pairwise_of_forall_mem_list
    intro first _here second woken
    exact dismisses.precedes_woken apart _ woken
  · intro first _here second present
    obtain ⟨sleeper, woken, made⟩ := List.mem_map.mp present
    rw [← made]
    exact dismisses.precedes_woken apart first woken

theorem Apart.dismiss (inTime : EndsInTime behaviour debounce)
    (apart : Apart behaviour debounce before)
    (dismisses : Dismisses before after key generation) : Apart behaviour debounce after := by
  refine
    { debounced := by rw [dismisses.settings]; exact apart.debounced
      named := ?_, underway := ?_, dismissed := ?_, single := ?_, ahead := ?_
      queue := dismisses.queue apart, sleepers := ?_ }
  · intro task place other seats found
    obtain ⟨former, kept⟩ := dismisses.seated apart seats
    exact apart.named task former other kept ((dismisses.tasks other _).mp found).2
  · intro task place seats counting
    obtain ⟨other, counted⟩ := (dismisses.counts _).mp counting
    rw [dismisses.clock]
    exact apart.underway task place (dismisses.unmoved apart seats other) counted
  · intro task place seats uncounted
    rw [dismisses.clock]
    exact dismisses.dismissed apart inTime seats uncounted
  · intro first second one two seatsOne seatsTwo
    obtain ⟨formerOne, keptOne⟩ := dismisses.seated apart seatsOne
    obtain ⟨formerTwo, keptTwo⟩ := dismisses.seated apart seatsTwo
    exact apart.single first second formerOne formerTwo keptOne keptTwo
  · intro task call seat place opening seats others counting opens sameKey working
    obtain ⟨other, counted⟩ := (dismisses.counts _).mp counting
    rw [dismisses.clock] at opens ⊢
    exact apart.ahead task call seat place opening (dismisses.unmoved apart seats other)
      (dismisses.unmoved apart others (by rw [sameKey]; exact other)) counted opens sameKey working
  · rw [dismisses.sleeping, State.sleeping_cancelTask]
    exact (apart.sleepers.filter _).imp fun outsleeps =>
      outsleeps.of_counts fun counting => ((dismisses.counts _).mp counting).2

end

theorem Apart.cancelKey (inTime : EndsInTime behaviour debounce)
    (apart : Apart behaviour debounce state) (key : String) :
    Apart behaviour debounce (state.cancelKey key) := by
  have tasks (other : String) (generation : Int) :
      (state.cancelKey key).registry.tasks.get? other = some generation ↔
        other ≠ key ∧ state.registry.tasks.get? other = some generation := by
    rw [State.tasks_cancelKey]
    by_cases same : other = key
    · simp [same]
    · simp [same]
  obtain ⟨registry, _tasks, ⟨nobody, superseded⟩ | ⟨generation, newest, superseded⟩⟩ :=
    state.supersede_cases key
  · refine apart.of_sublist (by rw [State.cancelKey, superseded])
      (by rw [State.cancelKey, superseded]) (by rw [State.cancelKey, superseded])
      (by rw [State.cancelKey, superseded]) ?_
    intro task place other _seats
    rw [tasks]
    refine ⟨And.right, fun found => ⟨?_, found⟩⟩
    rintro rfl
    rw [nobody] at found
    cases found
  · exact apart.dismiss inTime
      { newest
        settings := by rw [State.cancelKey, superseded]; rfl
        clock := (state.supersede_clock key).1
        ready := by rw [State.cancelKey, superseded]; rfl
        sleeping := by rw [State.cancelKey, superseded]; rfl
        tasks }

theorem Apart.cancelKeys (inTime : EndsInTime behaviour debounce) (keys : List String)
    (apart : Apart behaviour debounce state) :
    Apart behaviour debounce (keys.foldl State.cancelKey state) := by
  induction keys generalizing state with
  | nil => exact apart
  | cons key keys ih => exact ih (apart.cancelKey inTime key)

theorem Apart.beginClosing (inTime : EndsInTime behaviour debounce)
    (apart : Apart behaviour debounce state) : Apart behaviour debounce state.beginClosing := by
  refine (apart.cancelKeys inTime state.registry.tokens.keys).of_sublist rfl rfl
    (List.Sublist.refl _) (List.Sublist.refl _) ?_
  intro task place key _seats
  exact Iff.rfl

/-- The task that counted for a key makes way before the next one is queued. -/
theorem Apart.make_way (inTime : EndsInTime behaviour debounce)
    (apart : Apart behaviour debounce state)
    (issued : ∀ entry ∈ state.roster, entry.1.generation < state.registry.nextGeneration)
    (key : String) (request : Request) :
    Apart behaviour debounce
      { state.cancelKey key with registry := (state.schedule key request).registry } := by
  refine (apart.cancelKey inTime key).of_sublist rfl rfl (List.Sublist.refl _)
    (List.Sublist.refl _) ?_
  intro task place other seats
  have older : task.token.generation < state.registry.nextGeneration :=
    issued _ ((State.cancelKey_quiet state key).roster.mem_iff.mp seats.mem_roster)
  change (state.schedule key request).registry.tasks.get? other = _ ↔ _
  rw [State.tasks_schedule, State.tasks_cancelKey]
  by_cases same : other = key
  · have different : ¬ state.registry.nextGeneration = task.token.generation := by omega
    simp [same, different]
  · simp [same]

theorem Apart.schedule (inTime : EndsInTime behaviour debounce)
    (apart : Apart behaviour debounce state) (registered : Registered state)
    (issued : ∀ entry ∈ state.roster, entry.1.generation < state.registry.nextGeneration)
    (key : String) (request : Request) :
    Apart behaviour debounce (state.schedule key request) := by
  have sameNext := (State.supersede_quiet state key).nextGeneration
  rw [List.length_nil, Int.natCast_zero, Int.add_zero] at sameNext
  let task : Task Request Inner :=
    { token := Token.issue key (state.supersede key).registry.nextGeneration
      request
      stage := .scheduled }
  have idle : task.stage.phase ≠ .working := by
    intro working
    cases working
  have moved : Moved
      { state.cancelKey key with registry := (state.schedule key request).registry }
      (state.schedule key request) task.token (.queued task .elapsed) :=
    ⟨rfl, (List.append_nil _).symm, (List.append_nil _).symm⟩
  have named (other : String) (found : (state.schedule key request).registry.tasks.get? other =
      some task.token.generation) : key = other := by
    rw [State.tasks_schedule] at found
    split at found
    · rename_i same
      exact same.symm
    · have older := (registered other _ found).1
      change (state.supersede key).registry.nextGeneration < _ at older
      omega
  have counts : (state.schedule key request).Counts task.token := by
    change (state.schedule key request).registry.tasks.get? key =
      some (state.supersede key).registry.nextGeneration
    rw [State.tasks_schedule, if_pos rfl, sameNext]
  refine (apart.make_way inTime issued key request).put moved (Or.inl ⟨_, rfl⟩) rfl rfl rfl
    (.of_idle idle named (.scheduled rfl) counts ?_)
  intro call seat opening _seats opens
  cases opens

/-! ### Time -/

theorem Apart.tick (apart : Apart behaviour debounce state) (settled : state.ready = []) :
    Apart behaviour debounce state.tick := by
  refine
    { debounced := apart.debounced
      named := ?_, underway := ?_, dismissed := ?_, single := ?_, ahead := ?_, queue := ?_
      sleepers := ?_ }
  · intro task place key seats
    obtain ⟨due, kept, _here⟩ := seats_tick settled seats
    exact apart.named task _ key kept
  · intro task place seats counting
    obtain ⟨due, kept, rfl⟩ := seats_tick settled seats
    exact (apart.underway task _ kept counting).later
  · intro task place seats uncounted
    obtain ⟨due, kept, rfl⟩ := seats_tick settled seats
    cases apart.dismissed task _ kept uncounted with
    | leaving leaving =>
        refine .leaving (leaving.later.mono ?_)
        exact Nat.add_le_add_right (Nat.le_succ _) _
  · intro first second one two seatsOne seatsTwo
    obtain ⟨_dueOne, keptOne, _here⟩ := seats_tick settled seatsOne
    obtain ⟨_dueTwo, keptTwo, _there⟩ := seats_tick settled seatsTwo
    exact apart.single first second _ _ keptOne keptTwo
  · intro newest call seat place opening seats others counting opens sameKey working
    obtain ⟨due, kept, rfl⟩ := seats_tick settled seats
    obtain ⟨_due, kept', rfl⟩ := seats_tick settled others
    have opened := (apart.underway newest _ kept counting).opening?_later opens
    exact (apart.ahead newest call _ _ opening kept kept' counting opened sameKey working).later
  · rw [state.ready_tick settled]
    refine List.pairwise_map.mpr ((apart.sleepers.filter _).imp_of_mem ?_)
    intro first second here present outsleeps newest wake call other same same' counting sameKey
      working
    rw [List.mem_filter] at here present
    rw [Item.task.injEq] at same same'
    obtain ⟨rfl, rfl⟩ := same
    obtain ⟨rfl, rfl⟩ := same'
    refine ⟨fun stage => ?_, fun _scheduled => rfl⟩
    obtain ⟨task, due⟩ := first
    obtain ⟨call, wakes⟩ := second
    -- Both wake now, though the call was to wake before.
    cases due with
    | none => cases here.2
    | some start =>
        have opens : Place.opening? state.clock (.asleep task (some start)) = some start :=
          if_pos (Stage.isDebouncing_iff.mpr stage)
        have leaving := apart.ahead task call _ _ start (.asleep here.1) (.asleep present.1)
          counting opens sameKey working
        cases leaving with
        | @asleep _ _ stop _stage later _early _inTime =>
            have before := outsleeps counting sameKey working stage start stop rfl rfl
            have due : start ≤ state.clock + 1 := of_decide_eq_true here.2
            omega
  · rw [state.sleeping_tick]
    exact apart.sleepers.filter _

end

end ListingAtlas.Session
