import ListingAtlas.Proofs.Session.Registry
import ListingAtlas.Proofs.Session.Script
import ListingAtlas.Session.Planned

/-!
The course of a planned correlation that nothing disturbs. From the tick of its trigger on, each tick
tells where the task stands, what was said of it, and what is the latest result of its key.
-/

namespace ListingAtlas.Session

variable {World Note Request Inner : Type}

/-! ### How a plan ends -/

/-- How long a plan works. -/
def Plan.duration (plan : Plan) : Nat :=
  match plan.delay with
  | .ticks count => count
  | .immeasurable => 0

/-- How a plan ends that is not cancelled. -/
def Plan.conclusion (plan : Plan) : Ending :=
  match plan.delay with
  | .ticks _ => plan.ending
  | .immeasurable => .failure .immeasurableTime

/-- What is said of a task of a key that ends while it is current. -/
def Ending.said (key : String) : Ending → List (Event Note)
  | .result correlation => delivering key correlation
  | .failure reason => [failing reason]
  | _ => []

/-- What is the latest result then. -/
def Ending.kept (before : Option Correlation) : Ending → Option Correlation
  | .result correlation => some correlation
  | _ => before

theorem State.advanceBy_finish (state : State World Note Request Inner)
    (calm : state.settings.Calm) (task : Task Request Inner) (progress : Progress World Note Inner)
    {ending : Ending} (move : progress.move = .finish ending)
    (current : state.registry.isCurrent task.token = true) :
    (state.advanceBy task progress).events =
        state.events ++ progress.notes.map Event.note ++ ending.said task.token.key ∧
      (state.advanceBy task progress).latest task.token.key =
        ending.kept (state.latest task.token.key) := by
  have still : (state.noted progress).registry.isCurrent task.token = true := current
  cases ending with
  | cancelled =>
      rw [advanceBy_cancelled state task progress move]
      exact ⟨(List.append_nil _).symm, rfl⟩
  | wordless isExpected escape =>
      rw [advanceBy_wordless state task progress move]
      exact ⟨(List.append_nil _).symm, rfl⟩
  | failure failure =>
      obtain ⟨outcome, _kept, _silent, same⟩ := (state.noted progress).exists_fail still failure
      rw [advanceBy_failure state task progress move, same]
      exact ⟨rfl, rfl⟩
  | result correlation =>
      obtain ⟨outcome, said, _kept, _silent, told, _word, _which, same⟩ :=
        (state.noted progress).exists_deliver still correlation
      rw [advanceBy_result state task progress move, same, told calm.status]
      exact ⟨rfl, (Table.get?_insert ..).trans (if_pos rfl)⟩

/-! ### Records of one trigger -/

def recordsFor (generation : Int) (ledger : List (Record Note)) : List (Record Note) :=
  ledger.filter fun record => record.generation == generation

theorem recordsFor_append (generation : Int) (first second : List (Record Note)) :
    recordsFor generation (first ++ second) =
      recordsFor generation first ++ recordsFor generation second :=
  List.filter_append _ _

theorem recordsFor_recordsOf (generation : Int) (clock : Nat) (events : List (Event Note)) :
    recordsFor generation (recordsOf generation clock events) =
      recordsOf generation clock events := by
  unfold recordsFor
  rw [List.filter_eq_self]
  intro record member
  obtain ⟨event, _present, rfl⟩ := List.mem_map.mp member
  exact beq_self_eq_true generation

theorem recordsFor_recordsOf_other {generation other : Int} (different : other ≠ generation)
    (clock : Nat) (events : List (Event Note)) :
    recordsFor generation (recordsOf other clock events) = [] := by
  unfold recordsFor
  rw [List.filter_eq_nil_iff]
  intro record member
  obtain ⟨event, _present, rfl⟩ := List.mem_map.mp member
  simpa using different

/-! ### Turns of tasks -/

theorem extend_turn_state (behaviour : Behaviour World Note Request Inner)
    {history : History World Note Request Inner} {position : Nat} {task : Task Request Inner}
    {wake : Wake} (found : history.state.ready[position]? = some (.task task wake)) :
    (history.extend behaviour (.turn position)).state =
      State.runTask behaviour (history.state.taken position) task wake := by
  simp only [History.extend, State.occur, State.turnAt, found]
  rfl

theorem extend_turn_records {behaviour : Behaviour World Note Request Inner}
    {history : History World Note Request Inner} {position : Nat} {task : Task Request Inner}
    {wake : Wake} (found : history.state.ready[position]? = some (.task task wake))
    {events : List (Event Note)}
    (appended : (State.runTask behaviour (history.state.taken position) task wake).events =
      history.state.events ++ events) :
    (history.extend behaviour (.turn position)).ledger = history.ledger ++
      recordsOf task.token.generation history.state.clock events := by
  have spoken : speaker? history.state (.turn position : Occurrence World Request) =
      some task := by simp only [speaker?, found]
  have same := extend_turn_state behaviour found
  rw [← same] at appended
  change history.ledger ++ recordsBetween history.state
    (history.extend behaviour (.turn position)).state
    (speaker? history.state (.turn position : Occurrence World Request)) = _
  rw [spoken, recordsBetween_some task appended]

/-! ### The course -/

/-- What is known of a trigger when it is accepted: what it is for, the tick, and the latest result
of its key. Nothing escapes from the call-backs of its session. -/
structure Course where
  settings : Settings
  calm : settings.Calm
  debounce : Nat
  key : String
  generation : Int
  plan : Plan
  clock : Nat
  latest : Option Correlation

namespace Course

variable (course : Course)

def token : Token :=
  Token.issue course.key course.generation

def task (stage : Stage PlanState) : Task Plan PlanState :=
  { token := course.token, request := course.plan, stage }

/-- The tick at which the correlation starts. -/
def start : Nat :=
  course.clock + course.debounce

def stop : Nat :=
  course.start + course.plan.duration

/-- What is told when the correlation starts. -/
def announced : List (Event PlanNote) :=
  [begun, .note (.started course.plan.name course.generation)]

/-- What is heard of the trigger when its correlation starts. -/
def opening : List (Record PlanNote) :=
  recordsOf course.generation course.start course.announced

def ending : List (Record PlanNote) :=
  recordsOf course.generation course.stop (course.plan.conclusion.said course.key)

def kept : Option Correlation :=
  course.plan.conclusion.kept course.latest

/-- Where the task of a trigger that nothing disturbs stands at a tick, what has been heard of it,
and what is the latest result of its key. -/
inductive Stands : Place Plan PlanState → Nat → List (Record PlanNote) → Option Correlation → Prop
  | scheduled :
      Stands (.queued (course.task .scheduled) .elapsed) course.clock [] course.latest
  | debouncing (clock : Nat) (accepted : course.clock ≤ clock) (early : clock < course.start) :
      Stands (.asleep (course.task .debouncing) (some course.start)) clock [] course.latest
  | due : Stands (.queued (course.task .debouncing) .elapsed) course.start [] course.latest
  | working (clock : Nat) (started : course.start ≤ clock) (early : clock < course.stop)
      (timed : course.plan.delay = .ticks course.plan.duration) :
      Stands (.asleep (course.task (.correlating (.working course.plan))) (some course.stop)) clock
        course.opening course.latest
  | ripe (timed : course.plan.delay = .ticks course.plan.duration) :
      Stands (.queued (course.task (.correlating (.working course.plan))) .elapsed) course.stop
        course.opening course.latest
  | ended (outcome : Outcome) (clock : Nat) (past : course.stop ≤ clock) :
      Stands (.ended outcome) clock (course.opening ++ course.ending) course.kept

/-- A history in which the trigger keeps its course. -/
structure Holds (history : History World PlanNote Plan PlanState) : Prop where
  settings : history.state.settings = course.settings
  issued : course.generation < history.state.registry.nextGeneration
  current : history.state.registry.isCurrent course.token = true
  owned : ∀ key, history.state.registry.tasks.get? key = some course.generation →
    key = course.key
  stands : ∃ place, history.state.placesOf course.generation = [place] ∧
    course.Stands place history.state.clock
      (recordsFor course.generation history.ledger) (history.state.latest course.key)

variable {course}

theorem Holds.calm {history : History World PlanNote Plan PlanState}
    (holds : course.Holds history) : history.state.settings.Calm :=
  holds.settings ▸ course.calm

/-- What leaves a trigger alone. -/
structure Steady (course : Course) (history next : History World PlanNote Plan PlanState) :
    Prop where
  settings : next.state.settings = history.state.settings
  clock : next.state.clock = history.state.clock
  issued : history.state.registry.nextGeneration ≤ next.state.registry.nextGeneration
  current : next.state.registry.isCurrent course.token = true
  owned : ∀ key, next.state.registry.tasks.get? key = some course.generation → key = course.key
  places : (next.state.placesOf course.generation).Perm
    (history.state.placesOf course.generation)
  records : recordsFor course.generation next.ledger =
    recordsFor course.generation history.ledger
  latest : next.state.latest course.key = history.state.latest course.key

theorem Holds.steady {history next : History World PlanNote Plan PlanState}
    (holds : course.Holds history) (steady : course.Steady history next) :
    course.Holds next := by
  obtain ⟨place, here, stands⟩ := holds.stands
  have places := steady.places
  refine ⟨steady.settings.trans holds.settings, Int.lt_of_lt_of_le holds.issued steady.issued,
    steady.current, steady.owned, place, ?_, ?_⟩
  · rw [here] at places
    exact List.perm_singleton.mp places
  · rw [steady.clock, steady.records, steady.latest]
    exact stands

/-! ### Turns on the course -/

theorem Holds.turn_other {behaviour : Behaviour World PlanNote Plan PlanState}
    {history : History World PlanNote Plan PlanState} (holds : course.Holds history)
    {position : Nat} {task : Task Plan PlanState} {wake : Wake}
    (found : history.state.ready[position]? = some (.task task wake))
    (other : task.token.generation ≠ course.generation) :
    course.Steady history (history.extend behaviour (.turn position)) := by
  obtain ⟨phase, more, turn⟩ :=
    State.runTask_turnOf behaviour (history.state.taken position) task wake
  obtain ⟨place, goes, moved⟩ :=
    State.runTask_moved behaviour (history.state.taken position) task wake
  obtain ⟨events, appended, _spoken⟩ := turn.events
  have same := extend_turn_state behaviour found
  refine ⟨?_, ?_, ?_, ?_, ?_, ?_, ?_, ?_⟩
  · rw [same]
    exact turn.settings
  · rw [same]
    exact turn.clock
  · rw [same]
    exact Int.le_of_eq turn.nextGeneration.symm
  · rw [same, isCurrent_congr (congrArg (Table.get? · course.token.key) turn.tokens)]
    exact holds.current
  · rw [same, turn.tasks]
    exact holds.owned
  · rw [same, moved.placesOf_other goes.of other]
    have taken := history.state.taken_places course.generation found
    rw [Item.place?, if_neg other, Option.toList_none, List.nil_append] at taken
    exact taken.symm
  · rw [extend_turn_records found appended, recordsFor_append,
      recordsFor_recordsOf_other other, List.append_nil]
  · rw [same]
    by_cases sameKey : course.key = task.token.key
    · have stale : more = [] := by
        by_contra spoken
        exact other (isCurrent_unique (turn.current spoken) holds.current sameKey.symm)
      exact congrArg (Table.get? · course.key) (turn.unsaid stale).2.2
    · exact turn.latest_other sameKey

/-- The turn of the task itself leads to another place of its course. -/
theorem Holds.turn_to {behaviour : Behaviour World PlanNote Plan PlanState}
    {history : History World PlanNote Plan PlanState} (holds : course.Holds history)
    {position : Nat} {stage : Stage PlanState} {wake : Wake}
    (found : history.state.ready[position]? = some (.task (course.task stage) wake))
    {events : List (Event PlanNote)}
    (appended : (State.runTask behaviour (history.state.taken position) (course.task stage)
      wake).events = history.state.events ++ events)
    {place : Place Plan PlanState}
    (moved : Moved (history.state.taken position)
      (State.runTask behaviour (history.state.taken position) (course.task stage) wake)
      course.token place)
    (own : place.Of course.token)
    (stands : course.Stands place history.state.clock
      (recordsFor course.generation history.ledger ++
        recordsOf course.generation history.state.clock events)
      ((State.runTask behaviour (history.state.taken position) (course.task stage) wake).latest
        course.key)) :
    course.Holds (history.extend behaviour (.turn position)) := by
  obtain ⟨phase, more, turn⟩ :=
    State.runTask_turnOf behaviour (history.state.taken position) (course.task stage) wake
  have same := extend_turn_state behaviour found
  obtain ⟨old, here, _stood⟩ := holds.stands
  have alone : (history.state.taken position).placesOf course.generation = [] := by
    have taken := history.state.taken_places course.generation found
    have isOwn : (course.task stage).token.generation = course.generation := rfl
    rw [Item.place?, if_pos isOwn, here] at taken
    have lengths := taken.length_eq
    simp only [Option.toList_some, List.length_append, List.length_cons, List.length_nil] at lengths
    exact List.eq_nil_of_length_eq_zero (by omega)
  refine ⟨?_, ?_, ?_, ?_, place, ?_, ?_⟩
  · rw [same]
    exact turn.settings.trans holds.settings
  · rw [same, turn.nextGeneration]
    exact holds.issued
  · rw [same, isCurrent_congr (congrArg (Table.get? · course.token.key) turn.tokens)]
    exact holds.current
  · rw [same, turn.tasks]
    exact holds.owned
  · rw [same]
    have places := moved.placesOf_self own
    change (State.placesOf _ course.generation).Perm
      (place :: (history.state.taken position).placesOf course.generation) at places
    rw [alone] at places
    exact List.perm_singleton.mp places
  · have records := extend_turn_records found appended
    rw [records, recordsFor_append, same, turn.clock]
    change course.Stands place history.state.clock
      (_ ++ recordsFor course.generation (recordsOf course.generation _ events)) _
    rw [recordsFor_recordsOf]
    exact stands

theorem Holds.turn_scheduled {history : History World PlanNote Plan PlanState}
    (holds : course.Holds history)
    (debounce : course.settings.debounce = some (.ticks course.debounce))
    (positive : 0 < course.debounce) {position : Nat}
    (found : history.state.ready[position]? = some (.task (course.task .scheduled) .elapsed))
    (clock : history.state.clock = course.clock)
    (records : recordsFor course.generation history.ledger = [])
    (latest : history.state.latest course.key = course.latest) :
    course.Holds (history.extend (planned World).toBehaviour (.turn position)) := by
  have set : (history.state.taken position).settings.debounce =
      some (.ticks course.debounce) := by
    rw [← debounce, ← holds.settings]
    rfl
  have run : State.runTask (planned World).toBehaviour (history.state.taken position)
      (course.task .scheduled) .elapsed =
        (history.state.taken position).wait (course.task .debouncing) (some course.debounce) := by
    simp only [State.runTask, task, State.debounce, set]
  have appended : (State.runTask (planned World).toBehaviour (history.state.taken position)
      (course.task .scheduled) .elapsed).events = history.state.events ++ [] := by
    rw [run, State.wait_eq, List.append_nil]
    rfl
  have moved := State.wait_moved (history.state.taken position) (course.task .debouncing)
    (some course.debounce)
  rw [Place.waiting_pos _ _ positive, ← run] at moved
  apply holds.turn_to found appended moved rfl
  have kept : (State.runTask (planned World).toBehaviour (history.state.taken position)
      (course.task .scheduled) .elapsed).latest course.key = course.latest := by
    rw [run, State.wait_eq]
    exact latest
  have due : (history.state.taken position).clock + course.debounce = course.start :=
    congrArg (· + course.debounce) clock
  rw [records, kept, due, clock]
  exact .debouncing course.clock (Nat.le_refl _) (Nat.lt_add_of_pos_right positive)

/-- The turn in which the correlation ends, whatever was told earlier in that turn. -/
theorem Holds.turn_concluding {history : History World PlanNote Plan PlanState}
    (holds : course.Holds history) {position : Nat} {stage : Stage PlanState}
    (found : history.state.ready[position]? = some (.task (course.task stage) .elapsed))
    {progress : Progress World PlanNote PlanState} {status : Status} {detail : String}
    {events told : List (Event PlanNote)}
    (run : State.runTask (planned World).toBehaviour (history.state.taken position)
      (course.task stage) .elapsed =
        State.advanceBy { history.state.taken position with status, detail, events }
          (course.task stage) progress)
    (move : progress.move = .finish course.plan.conclusion)
    (heard : events ++ progress.notes.map Event.note = history.state.events ++ told)
    (clock : history.state.clock = course.stop)
    (records : recordsFor course.generation history.ledger ++
      recordsOf course.generation course.stop told = course.opening)
    (latest : history.state.latest course.key = course.latest) :
    course.Holds (history.extend (planned World).toBehaviour (.turn position)) := by
  obtain ⟨said, keeps⟩ := State.advanceBy_finish
    { history.state.taken position with status, detail, events } holds.calm (course.task stage)
    progress move holds.current
  obtain ⟨place, led, moved⟩ := State.advanceBy_moved
    { history.state.taken position with status, detail, events } (course.task stage) progress
  rw [move] at led
  rw [← run] at said keeps moved
  have appended : (State.runTask (planned World).toBehaviour (history.state.taken position)
      (course.task stage) .elapsed).events = history.state.events ++
        (told ++ course.plan.conclusion.said course.key) := by
    rw [said, ← List.append_assoc, ← heard]
    rfl
  have kept : (State.runTask (planned World).toBehaviour (history.state.taken position)
      (course.task stage) .elapsed).latest course.key = course.kept := by
    rw [Course.kept, ← latest]
    exact keeps
  have whole : recordsFor course.generation history.ledger ++
      recordsOf course.generation course.stop
        (told ++ course.plan.conclusion.said course.key) =
          course.opening ++ course.ending := by
    rw [recordsOf_append, ← List.append_assoc, records]
    rfl
  refine holds.turn_to found appended ⟨moved.ready, moved.sleeping, moved.finished⟩ led.of ?_
  rw [clock, whole, kept]
  cases led with
  | finish ending outcome => exact .ended outcome course.stop (Nat.le_refl _)

/-- The correlation starts once the debounce is over: the task is still the latest of its key. -/
theorem Holds.runTask_due {history : History World PlanNote Plan PlanState}
    (holds : course.Holds history) (position : Nat) :
    State.runTask (planned World).toBehaviour (history.state.taken position)
        (course.task .debouncing) .elapsed =
      State.advanceBy
        { history.state.taken position with
          status := .recompiling
          detail := ""
          events := history.state.events ++ [begun] }
        (course.task .debouncing) (startPlan history.state.world course.plan course.token) := by
  have current : (history.state.taken position).registry.isCurrent course.token = true :=
    holds.current
  have calm : (history.state.taken position).settings.Calm := holds.calm
  simp only [State.runTask, task, if_pos current, State.tellStatus_calm calm]
  rfl

theorem Holds.turn_due_timed {history : History World PlanNote Plan PlanState}
    (holds : course.Holds history) {position count : Nat}
    (delay : course.plan.delay = .ticks count)
    (found : history.state.ready[position]? = some (.task (course.task .debouncing) .elapsed))
    (clock : history.state.clock = course.start)
    (records : recordsFor course.generation history.ledger = [])
    (latest : history.state.latest course.key = course.latest) :
    course.Holds (history.extend (planned World).toBehaviour (.turn position)) := by
  have duration : course.plan.duration = count := by simp only [Plan.duration, delay]
  have timed : course.plan.delay = .ticks course.plan.duration := by rw [delay, duration]
  have stop : course.stop = course.start + count := by rw [Course.stop, duration]
  have move : (startPlan history.state.world course.plan course.token).move =
      .wait (some count) (.working course.plan) := by
    simp only [startPlan, workFor, delay]
  have run := (holds.runTask_due position).trans (State.advanceBy_wait _ _ _ move)
  have moved : Moved (history.state.taken position)
      (State.runTask (planned World).toBehaviour (history.state.taken position)
        (course.task .debouncing) .elapsed) course.token
      (Place.waiting history.state.clock (course.task (.correlating (.working course.plan)))
        (some count)) := by
    rw [run]
    exact ⟨(State.wait_moved _ _ _).ready, (State.wait_moved _ _ _).sleeping,
      (State.wait_moved _ _ _).finished⟩
  have appended : (State.runTask (planned World).toBehaviour (history.state.taken position)
      (course.task .debouncing) .elapsed).events = history.state.events ++ course.announced := by
    rw [run, State.wait_eq]
    exact List.append_assoc _ _ _
  have kept : (State.runTask (planned World).toBehaviour (history.state.taken position)
      (course.task .debouncing) .elapsed).latest course.key = course.latest := by
    rw [run, State.wait_eq]
    exact latest
  refine holds.turn_to found appended moved (Place.of_waiting _ _ _) ?_
  rw [records, kept, List.nil_append, clock, ← Course.opening]
  -- Work for no time is over at the tick at which it begins, though not in the same turn.
  by_cases lasts : count = 0
  · have atOnce : course.stop = course.start := by omega
    rw [lasts, Place.waiting_zero, ← atOnce]
    exact .ripe timed
  · have positive : 0 < count := by omega
    rw [Place.waiting_pos _ _ positive, ← stop]
    exact .working course.start (Nat.le_refl _) (by omega) timed

theorem Holds.turn_due_immeasurable {history : History World PlanNote Plan PlanState}
    (holds : course.Holds history) {position : Nat}
    (delay : course.plan.delay = .immeasurable)
    (found : history.state.ready[position]? = some (.task (course.task .debouncing) .elapsed))
    (clock : history.state.clock = course.start)
    (records : recordsFor course.generation history.ledger = [])
    (latest : history.state.latest course.key = course.latest) :
    course.Holds (history.extend (planned World).toBehaviour (.turn position)) := by
  have duration : course.plan.duration = 0 := by simp only [Plan.duration, delay]
  have stop : course.stop = course.start := by rw [Course.stop, duration, Nat.add_zero]
  have move : (startPlan history.state.world course.plan course.token).move =
      .finish course.plan.conclusion := by
    simp only [startPlan, workFor, delay, Plan.conclusion]
  have heard : history.state.events ++ [begun] ++
      (startPlan history.state.world course.plan course.token).notes.map Event.note =
        history.state.events ++ course.announced := List.append_assoc _ _ _
  refine holds.turn_concluding found (holds.runTask_due position) move heard
    (clock.trans stop.symm) ?_ latest
  rw [records, stop, List.nil_append, ← Course.opening]

theorem Holds.turn_due {history : History World PlanNote Plan PlanState}
    (holds : course.Holds history) {position : Nat}
    (found : history.state.ready[position]? = some (.task (course.task .debouncing) .elapsed))
    (clock : history.state.clock = course.start)
    (records : recordsFor course.generation history.ledger = [])
    (latest : history.state.latest course.key = course.latest) :
    course.Holds (history.extend (planned World).toBehaviour (.turn position)) := by
  cases delay : course.plan.delay with
  | ticks count => exact holds.turn_due_timed delay found clock records latest
  | immeasurable => exact holds.turn_due_immeasurable delay found clock records latest

theorem Holds.turn_ripe {history : History World PlanNote Plan PlanState}
    (holds : course.Holds history) {position : Nat}
    (timed : course.plan.delay = .ticks course.plan.duration)
    (found : history.state.ready[position]? =
      some (.task (course.task (.correlating (.working course.plan))) .elapsed))
    (clock : history.state.clock = course.stop)
    (records : recordsFor course.generation history.ledger = course.opening)
    (latest : history.state.latest course.key = course.latest) :
    course.Holds (history.extend (planned World).toBehaviour (.turn position)) := by
  have run : State.runTask (planned World).toBehaviour (history.state.taken position)
      (course.task (.correlating (.working course.plan))) .elapsed =
        (history.state.taken position).advanceBy (course.task (.correlating (.working course.plan)))
          (resumePlan history.state.world (.working course.plan) .elapsed) := by
    simp only [State.runTask, task]
    rfl
  have move : (resumePlan history.state.world (.working course.plan) .elapsed).move =
      .finish course.plan.conclusion := by
    simp only [resumePlan, Plan.conclusion, timed]
  refine holds.turn_concluding found run move rfl clock ?_ latest
  rw [records]
  exact List.append_nil _

theorem Holds.turn {history : History World PlanNote Plan PlanState}
    (holds : course.Holds history)
    (debounce : course.settings.debounce = some (.ticks course.debounce))
    (positive : 0 < course.debounce) {position : Nat}
    (unclosed : history.state.ready[position]? ≠ some .closing) :
    course.Holds (history.extend (planned World).toBehaviour (.turn position)) := by
  cases found : history.state.ready[position]? with
  | none =>
      have same : history.extend (planned World).toBehaviour (.turn position) = history := by
        simp only [History.extend, State.occur, State.turnAt, callOf?, speaker?, found,
          recordsBetween, Option.toList_none, List.append_nil]
      rw [same]
      exact holds
  | some item =>
      cases item with
      | closing => exact absurd found unclosed
      | task task wake =>
          by_cases own : task.token.generation = course.generation
          · obtain ⟨place, here, stands⟩ := holds.stands
            have isHere : place = .queued task wake := by
              have taken := history.state.taken_places course.generation found
              rw [Item.place?, if_pos own, here] at taken
              have member := taken.mem_iff.mpr (List.mem_append_left _ (Option.mem_toList.mpr rfl))
              exact (List.mem_singleton.mp member).symm
            rw [isHere] at stands
            generalize clock : history.state.clock = tick at stands
            generalize records : recordsFor course.generation history.ledger = heard at stands
            generalize latest : history.state.latest course.key = result at stands
            cases stands with
            | scheduled => exact holds.turn_scheduled debounce positive found clock records latest
            | due => exact holds.turn_due found clock records latest
            | ripe timed => exact holds.turn_ripe timed found clock records latest
          · exact holds.steady (holds.turn_other found own)

/-! ### Time -/

/-- A task that stands in no queue sleeps or has ended. -/
theorem not_queued {state : State World Note Request Inner} (settled : state.ready = [])
    {generation : Int} {task : Task Request Inner} {wake : Wake} :
    Place.queued task wake ∉ state.placesOf generation := by
  intro member
  unfold State.placesOf at member
  rw [settled, List.filterMap_nil, List.nil_append, List.mem_append] at member
  rcases member with asleep | ended
  · obtain ⟨sleeper, _present, made⟩ := List.mem_filterMap.mp asleep
    unfold Sleeper.place? at made
    split at made <;> cases made
  · obtain ⟨finished, _present, made⟩ := List.mem_filterMap.mp ended
    unfold Finished.place? at made
    split at made <;> cases made

theorem Holds.tick {behaviour : Behaviour World PlanNote Plan PlanState}
    {history : History World PlanNote Plan PlanState} (holds : course.Holds history)
    (settled : history.state.ready = []) : course.Holds (history.extend behaviour .tick) := by
  obtain ⟨place, here, stands⟩ := holds.stands
  have passed := history.state.tick_places course.generation
  rw [here, List.map_singleton, List.perm_singleton] at passed
  have silent : (history.extend behaviour .tick).ledger = history.ledger := List.append_nil _
  refine ⟨holds.settings, holds.issued, holds.current, holds.owned, _, passed, ?_⟩
  rw [silent]
  change course.Stands _ (history.state.clock + 1) _ (history.state.latest course.key)
  generalize history.state.clock = clock at stands
  generalize recordsFor course.generation history.ledger = records at stands
  generalize history.state.latest course.key = latest at stands
  have notQueued {task : Task Plan PlanState} {wake : Wake} : place ≠ .queued task wake := by
    intro queued
    rw [queued] at here
    exact not_queued settled (here ▸ List.mem_singleton_self _)
  cases stands with
  | scheduled => exact absurd rfl notQueued
  | due => exact absurd rfl notQueued
  | ripe timed => exact absurd rfl notQueued
  | debouncing clock accepted early =>
      by_cases now : course.start ≤ clock + 1
      · have same : clock + 1 = course.start := by omega
        rw [Place.later, if_pos (by simpa [State.isDue] using now), same]
        exact .due
      · rw [Place.later, if_neg (by simpa [State.isDue] using now)]
        exact .debouncing (clock + 1) (by omega) (by omega)
  | working clock started early timed =>
      by_cases now : course.stop ≤ clock + 1
      · have same : clock + 1 = course.stop := by omega
        rw [Place.later, if_pos (by simpa [State.isDue] using now), same]
        exact .ripe timed
      · rw [Place.later, if_neg (by simpa [State.isDue] using now)]
        exact .working (clock + 1) (by omega) (by omega) timed
  | ended outcome clock past => exact .ended outcome (clock + 1) (by omega)

/-! ### Calls -/

/-- A call that does not count for the key leaves it alone, if it leaves the task where it is. -/
theorem Holds.call {behaviour : Behaviour World PlanNote Plan PlanState}
    {history : History World PlanNote Plan PlanState} (holds : course.Holds history)
    {occurrence : Occurrence World Plan} (unspoken : speaker? history.state occurrence = none)
    (atOnce : occurrence.ticks = 0)
    (apart : ∀ call, callOf? history.state occurrence = some call → ¬ call.Ends course.key)
    (places : (history.state.occur behaviour occurrence).placesOf course.generation =
      history.state.placesOf course.generation) :
    course.Steady history (history.extend behaviour occurrence) := by
  have only := occur_callOnly behaviour history.state occurrence unspoken
  have tokens : (history.state.occur behaviour occurrence).registry.tokens.get? course.key =
      history.state.registry.tokens.get? course.key := by
    rw [only.tokens]
    cases called : callOf? history.state occurrence with
    | none => rfl
    | some call =>
        have other := apart call called
        cases call with
        | accepted key generation => exact if_neg fun same => other same.symm
        | cancelled key => exact if_neg fun same => other same.symm
        | closed => exact absurd trivial other
  refine ⟨only.settings, ?_, only.next_le, ?_, ?_, List.Perm.of_eq places, ?_,
    congrArg (Table.get? · course.key) only.results⟩
  · have clock := history.state.occur_clock behaviour occurrence
    rw [atOnce] at clock
    exact clock
  · exact (@isCurrent_congr _ _ course.token tokens).trans holds.current
  · intro key found
    rcases occur_tasks found with old | accepted
    · exact holds.owned key old
    · have number := only.numbered key course.generation accepted
      have issued := holds.issued
      omega
  · simp only [History.extend, unspoken, recordsBetween, List.append_nil]

theorem Holds.not_newest {history : History World PlanNote Plan PlanState}
    (holds : course.Holds history) {key : String} (other : key ≠ course.key) :
    history.state.registry.tasks.get? key ≠ some course.generation :=
  fun found => other (holds.owned key found)

theorem Holds.trigger {behaviour : Behaviour World PlanNote Plan PlanState}
    {history : History World PlanNote Plan PlanState} (holds : course.Holds history)
    {key : String} {source : Path} (other : State.accepts source = true → key ≠ course.key)
    (plan : Plan) : course.Steady history (history.extend behaviour (.trigger key source plan)) := by
  apply holds.call rfl rfl
  · intro call called
    simp only [callOf?] at called
    split at called
    · rename_i accepted
      rw [← Option.some.inj called]
      exact other accepted
    · cases called
  · simp only [State.occur, State.trigger]
    split
    · rename_i accepted
      have issued := holds.issued
      exact history.state.schedule_places plan (holds.not_newest (other accepted)) (by omega)
    · rfl

theorem Holds.cancel {behaviour : Behaviour World PlanNote Plan PlanState}
    {history : History World PlanNote Plan PlanState} (holds : course.Holds history)
    {key : String} (other : key ≠ course.key) :
    course.Steady history (history.extend behaviour (.cancel key)) := by
  apply holds.call rfl rfl
  · intro call called
    rw [← Option.some.inj called]
    exact other
  · exact history.state.supersede_places (holds.not_newest other)

theorem Holds.forget {behaviour : Behaviour World PlanNote Plan PlanState}
    {history : History World PlanNote Plan PlanState} (holds : course.Holds history)
    (key : String) : course.Steady history (history.extend behaviour (.forget key)) := by
  apply holds.call rfl rfl
  · intro call called
    cases called
  · rfl

theorem Holds.queueClose {behaviour : Behaviour World PlanNote Plan PlanState}
    {history : History World PlanNote Plan PlanState} (holds : course.Holds history) :
    course.Steady history (history.extend behaviour .queueClose) := by
  apply holds.call rfl rfl
  · intro call called
    cases called
  · have queue : (history.state.ready ++ [Item.closing]).filterMap
        (Item.place? course.generation) =
          history.state.ready.filterMap (Item.place? course.generation) := by
      rw [List.filterMap_append]
      exact List.append_nil _
    change List.filterMap _ (history.state.ready ++ [Item.closing]) ++ _ ++ _ = _
    rw [queue]
    rfl

end Course

end ListingAtlas.Session
