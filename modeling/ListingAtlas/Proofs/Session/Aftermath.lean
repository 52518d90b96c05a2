import ListingAtlas.Proofs.Session.Course

/-!
What stays true of a trigger, whatever occurs. One that is dropped before its correlation starts is
never heard of, one that has started does not start again, and nothing more is heard of one that is
over.
-/

namespace ListingAtlas.Session

variable {World Note Request Inner : Type}

/-! ### Following one generation -/

/-- What is known of the task of a generation and of what was heard of it. -/
structure Follows (generation : Int) (entries : Token × Phase → Prop)
    (records : List (Record Note) → Prop) (history : History World Note Request Inner) : Prop where
  issued : generation < history.state.registry.nextGeneration
  entries : ∀ entry ∈ history.state.roster, entry.1.generation = generation → entries entry
  records : records (recordsFor generation history.ledger)

theorem Follows.call {generation : Int} {entries : Token × Phase → Prop}
    {records : List (Record Note) → Prop} {history : History World Note Request Inner}
    (follows : Follows generation entries records history)
    (behaviour : Behaviour World Note Request Inner) {occurrence : Occurrence World Request}
    (unspoken : speaker? history.state occurrence = none) :
    Follows generation entries records (history.extend behaviour occurrence) := by
  have only := occur_callOnly behaviour history.state occurrence unspoken
  refine ⟨Int.lt_of_lt_of_le follows.issued only.next_le, ?_, ?_⟩
  · intro entry member named
    rcases only.mem_roster.mp member with added | kept
    · have number := only.fresh added
      have issued := follows.issued
      omega
    · exact follows.entries entry kept named
  · simp only [History.extend, unspoken, recordsBetween, List.append_nil]
    exact follows.records

/-- Only turns of the task itself have to be looked at. -/
theorem Follows.extend {generation : Int} {entries : Token × Phase → Prop}
    {records : List (Record Note) → Prop} {history : History World Note Request Inner}
    (follows : Follows generation entries records history)
    (behaviour : Behaviour World Note Request Inner) (occurrence : Occurrence World Request)
    (own : ∀ position task wake, history.state.ready[position]? = some (.task task wake) →
      task.token.generation = generation → entries (task.token, task.stage.phase) →
      ∀ new more events,
        TurnOf (history.state.taken position)
          (State.runTask behaviour (history.state.taken position) task wake) task.token
          task.stage.phase new more →
        (State.runTask behaviour (history.state.taken position) task wake).events =
          history.state.events ++ events →
        entries (task.token, new) ∧
          records (recordsFor generation history.ledger ++
            recordsOf generation history.state.clock events)) :
    Follows generation entries records (history.extend behaviour occurrence) := by
  cases spoken : speaker? history.state occurrence with
  | none => exact follows.call behaviour spoken
  | some task =>
      obtain ⟨position, wake, rfl, found⟩ := speaker?_eq_some spoken
      obtain ⟨new, more, turn⟩ :=
        State.runTask_turnOf behaviour (history.state.taken position) task wake
      obtain ⟨events, appended, _spoken⟩ := turn.events
      have same := extend_turn_state behaviour found
      have wasThere : (task.token, task.stage.phase) ∈ history.state.roster :=
        (State.mem_roster_taken found).mpr (Or.inl rfl)
      have now := extend_turn_records found appended
      refine ⟨?_, ?_, ?_⟩
      · rw [same, turn.nextGeneration]
        exact follows.issued
      · intro entry member named
        rw [same] at member
        rcases turn.mem_roster.mp member with rfl | other
        · exact (own position task wake found named (follows.entries _ wasThere named) new more
            events turn appended).1
        · exact follows.entries entry ((State.mem_roster_taken found).mpr (Or.inr other)) named
      · rw [now, recordsFor_append]
        by_cases named : task.token.generation = generation
        · rw [named, recordsFor_recordsOf]
          exact (own position task wake found named (follows.entries _ wasThere named) new more
            events turn appended).2
        · rw [recordsFor_recordsOf_other named, List.append_nil]
          exact follows.records

theorem Stage.phase_live (stage : Stage Inner) (outcome : Outcome) :
    stage.phase ≠ .ended outcome := by
  cases stage <;> simp [Stage.phase]

/-! ### Over -/

/-- The task has ended, and just this was heard of it. -/
def Over (generation : Int) (heard : List (Record Note)) :
    History World Note Request Inner → Prop :=
  Follows generation (fun entry => ∃ outcome, entry.2 = .ended outcome) (· = heard)

theorem Over.extend {generation : Int} {heard : List (Record Note)}
    {history : History World Note Request Inner} (passed : Over generation heard history)
    (behaviour : Behaviour World Note Request Inner) (occurrence : Occurrence World Request) :
    Over generation heard (history.extend behaviour occurrence) := by
  apply Follows.extend passed behaviour occurrence
  intro position task wake _found _named ended
  obtain ⟨outcome, same⟩ := ended
  exact absurd same (task.stage.phase_live outcome)

/-! ### Begun -/

def Event.isStart : Event PlanNote → Bool
  | .note (.started _ _) => true
  | _ => false

/-- The ticks at which a correlation was started. -/
def startsIn (records : List (Record PlanNote)) : List Nat :=
  (records.filter fun record => record.event.isStart).map Record.clock

theorem startsIn_append (first second : List (Record PlanNote)) :
    startsIn (first ++ second) = startsIn first ++ startsIn second := by
  unfold startsIn
  rw [List.filter_append, List.map_append]

theorem startsIn_recordsOf_nil {generation : Int} {clock : Nat} {events : List (Event PlanNote)}
    (none : ∀ event ∈ events, event.isStart = false) :
    startsIn (recordsOf generation clock events) = [] := by
  unfold startsIn
  rw [List.map_eq_nil_iff, List.filter_eq_nil_iff]
  intro record member
  obtain ⟨event, present, rfl⟩ := List.mem_map.mp member
  simpa using none event present

theorem Event.isStart_of_isSpoken {event : Event PlanNote} (spoken : event.isSpoken = true) :
    event.isStart = false := by
  cases event with
  | note note => cases spoken
  | _ => rfl

theorem Ending.said_isSpoken (key : String) (ending : Ending) :
    ∀ event ∈ (ending.said key : List (Event Note)), event.isSpoken = true := by
  cases ending <;> simp [Ending.said, delivering, keeping, failing, Event.isSpoken]

/-- A stretch of a correlator leaves its own notes, and what the session says after them. -/
theorem State.advanceBy_events (state : State World Note Request Inner)
    (task : Task Request Inner) (progress : Progress World Note Inner) :
    ∃ spoken, (state.advanceBy task progress).events =
        state.events ++ (progress.notes.map Event.note ++ spoken) ∧
      ∀ event ∈ spoken, event.isSpoken = true := by
  have silent (after : State World Note Request Inner)
      (same : after.events = state.events ++ progress.notes.map Event.note) :
      ∃ spoken, after.events = state.events ++ (progress.notes.map Event.note ++ spoken) ∧
        ∀ event ∈ spoken, event.isSpoken = true :=
    ⟨[], by rw [List.append_nil]; exact same, by simp⟩
  cases move : progress.move with
  | wait ticks inner =>
      rw [advanceBy_wait state task progress move, wait_eq]
      exact silent _ rfl
  | finish ending =>
      cases ending with
      | cancelled =>
          rw [advanceBy_cancelled state task progress move]
          exact silent _ rfl
      | wordless isExpected escape =>
          rw [advanceBy_wordless state task progress move]
          exact silent _ rfl
      | failure failure =>
          rw [advanceBy_failure state task progress move]
          by_cases current : (state.noted progress).registry.isCurrent task.token = true
          · obtain ⟨outcome, _kept, _calm, same⟩ :=
              (state.noted progress).exists_fail current failure
            rw [same]
            exact ⟨[failing failure], List.append_assoc _ _ _, by simp [failing, Event.isSpoken]⟩
          · rw [fail_stale _ _ _ current]
            exact silent _ rfl
      | result correlation =>
          rw [advanceBy_result state task progress move]
          by_cases current : (state.noted progress).registry.isCurrent task.token = true
          · obtain ⟨outcome, said, _kept, _calm, _told, _word, which, same⟩ :=
              (state.noted progress).exists_deliver current correlation
            rw [same]
            refine ⟨said, List.append_assoc _ _ _, ?_⟩
            rcases which with rfl | rfl <;> simp [delivering, keeping, Event.isSpoken]
          · rw [deliver_stale _ _ _ current]
            exact silent _ rfl

theorem resumePlan_notes (world : World) (inner : PlanState) (wake : Wake) :
    ∀ note ∈ (resumePlan world inner wake).notes,
      (Event.note note).isStart = false := by
  cases inner <;> cases wake <;> simp [resumePlan, Event.isStart]

/-- The correlation was started at these ticks, and the task is past its start. -/
def Begun (generation : Int) (starts : List Nat) :
    History World PlanNote Plan PlanState → Prop :=
  Follows generation (fun entry => entry.2 ≠ .waiting) (startsIn · = starts)

theorem Begun.extend {generation : Int} {starts : List Nat}
    {history : History World PlanNote Plan PlanState} (started : Begun generation starts history)
    (occurrence : Occurrence World Plan) :
    Begun generation starts (history.extend (planned World).toBehaviour occurrence) := by
  apply Follows.extend started (planned World).toBehaviour occurrence
  intro position task wake _found _named past new more events turn appended
  cases stage : task.stage with
  | scheduled => exact absurd (by rw [stage]; rfl) past
  | debouncing => exact absurd (by rw [stage]; rfl) past
  | correlating inner =>
      rw [stage] at turn
      constructor
      · intro waiting
        have said := turn.word [begun] .working
        change new = .waiting at waiting
        rw [waiting] at said
        cases said
      · have run : State.runTask (planned World).toBehaviour (history.state.taken position) task
            wake = (history.state.taken position).advanceBy task
              (resumePlan history.state.world inner wake) := by
          simp only [State.runTask, stage]
          rfl
        obtain ⟨spoken, events', isSpoken⟩ := (history.state.taken position).advanceBy_events task
          (resumePlan history.state.world inner wake)
        rw [← run, appended] at events'
        rw [startsIn_append, started.records, List.append_cancel_left events',
          startsIn_recordsOf_nil, List.append_nil]
        intro event member
        rcases List.mem_append.mp member with noted | spokenToo
        · obtain ⟨note, present, rfl⟩ := List.mem_map.mp noted
          exact resumePlan_notes history.state.world inner wake note present
        · exact Event.isStart_of_isSpoken (isSpoken event spokenToo)

/-! ### Dropped -/

/-- The task never starts: it is not current, and nothing was heard of it. -/
structure Dropped (token : Token) (history : History World Note Request Inner) : Prop where
  stale : history.state.registry.isCurrent token = false
  unheard : Follows token.generation
    (fun entry => entry = (token, .waiting) ∨ ∃ outcome, entry.2 = .ended outcome) (· = []) history

theorem State.runTask_stale (behaviour : Behaviour World Note Request Inner)
    (state : State World Note Request Inner) (task : Task Request Inner) (wake : Wake)
    (waits : task.stage.phase = .waiting) (stale : state.registry.isCurrent task.token = false) :
    (runTask behaviour state task wake).events = state.events := by
  have debounced : (state.debounce task).events = state.events := by
    unfold debounce
    split
    · rw [wait_eq]
    · rw [wait_eq]
    · rfl
  cases stage : task.stage with
  | scheduled =>
      cases wake with
      | elapsed =>
          simp only [runTask, stage]
          exact debounced
      | cancelled =>
          simp only [runTask, stage]
          rfl
  | debouncing =>
      cases wake with
      | elapsed =>
          simp only [runTask, stage, stale]
          rfl
      | cancelled =>
          simp only [runTask, stage]
          rfl
  | correlating inner =>
      rw [stage] at waits
      cases waits

theorem Dropped.extend {token : Token} {history : History World Note Request Inner}
    (dropped : Dropped token history) (behaviour : Behaviour World Note Request Inner)
    (occurrence : Occurrence World Request) :
    Dropped token (history.extend behaviour occurrence) := by
  constructor
  · cases spoken : speaker? history.state occurrence with
    | none =>
        have only := occur_callOnly behaviour history.state occurrence spoken
        exact only.stale dropped.unheard.issued dropped.stale
    | some task =>
        obtain ⟨position, wake, rfl, found⟩ := speaker?_eq_some spoken
        obtain ⟨new, more, turn⟩ := history.state.occur_turnOf behaviour found
        have tokens := congrArg (Table.get? · token.key) turn.tokens
        exact (isCurrent_congr tokens).trans dropped.stale
  · apply dropped.unheard.extend behaviour occurrence
    intro position task wake _found _named known new more events turn appended
    have isWaiting : (task.token, task.stage.phase) = (token, .waiting) := by
      rcases known with waiting | ⟨outcome, ended⟩
      · exact waiting
      · exact absurd ended (task.stage.phase_live outcome)
    rw [Prod.mk.injEq] at isWaiting
    obtain ⟨named, waits⟩ := isWaiting
    have stale : (history.state.taken position).registry.isCurrent task.token = false := by
      rw [named]
      exact dropped.stale
    constructor
    · have nothing : more = [] := by
        by_contra spoken
        have current := turn.current spoken
        rw [stale] at current
        cases current
      have said := turn.word [] (by rw [waits]; exact .waiting)
      rw [nothing, List.append_nil] at said
      cases phase : new with
      | waiting => exact Or.inl (by rw [named])
      | working =>
          rw [phase] at said
          cases said
      | ended outcome => exact Or.inr ⟨outcome, rfl⟩
    · have silent := State.runTask_stale behaviour (history.state.taken position) task wake waits stale
      rw [appended] at silent
      have none : events = [] := List.append_right_eq_self.mp silent
      rw [dropped.unheard.records, none]
      rfl

end ListingAtlas.Session
