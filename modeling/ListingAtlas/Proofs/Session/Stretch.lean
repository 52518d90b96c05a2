import ListingAtlas.Proofs.Session.History

/-!
What a turn makes of a task, seen from outside: where the task stands afterwards and what was said of
it meanwhile. Everything else that a turn may not touch is listed beside.
-/

namespace ListingAtlas.Session

variable {World Note Request Inner : Type}

/-! ### Operations as plain updates -/

/-- Nothing escapes from the call-back that is told of statuses, if one is given. -/
def Settings.StatusCalm (settings : Settings) : Prop :=
  ∀ call ∈ settings.onStatus, ∀ said status message, call said status message = none

/-- Nothing escapes from the call-backs, whatever they are told. -/
structure Settings.Calm (settings : Settings) : Prop where
  status : settings.StatusCalm
  result : ∀ call ∈ settings.onResult, ∀ said key correlation, call said key correlation = none

theorem Settings.StatusCalm.raised?_eq_none {settings : Settings} (calm : settings.StatusCalm)
    (said : Nat) (status : Status) (message : String) :
    settings.raised? said (.status status message : Event Note) = none := by
  cases given : settings.onStatus with
  | none => simp only [raised?, given, Option.bind_none]
  | some call =>
      simp only [raised?, given, Option.bind_some]
      exact calm call given said status message

theorem Settings.Calm.raised?_eq_none {settings : Settings} (calm : settings.Calm) (said : Nat)
    (event : Event Note) : settings.raised? said event = none := by
  cases event with
  | status status message => exact calm.status.raised?_eq_none said status message
  | result key correlation =>
      cases given : settings.onResult with
      | none => simp only [raised?, given, Option.bind_none]
      | some call =>
          simp only [raised?, given, Option.bind_some]
          exact calm.result call given said key correlation
  | note note => rfl

theorem Settings.recording_calm (debounce : Option Span) (statuses results : Bool) :
    (recording debounce statuses results).Calm where
  status := by
    cases statuses with
    | false => exact fun _call none => nomatch none
    | true =>
        intro call given said status message
        cases given
        rfl
  result := by
    cases results with
    | false => exact fun _call none => nomatch none
    | true =>
        intro call given said key correlation
        cases given
        rfl

namespace State

/-- Without an escape, what is to come follows once the status is set. -/
theorem tellStatus_calm {state : State World Note Request Inner} (calm : state.settings.Calm)
    (token : Token) (status : Status) (detail : String) (interrupted : Escape → Outcome)
    (next : State World Note Request Inner → State World Note Request Inner) :
    state.tellStatus token status detail interrupted next =
      next (state.setStatus status detail) := by
  unfold tellStatus raised?
  rw [calm.raised?_eq_none]

theorem wait_eq (state : State World Note Request Inner) (task : Task Request Inner)
    (ticks : Option Nat) :
    state.wait task ticks =
      { state with
        ready := state.ready ++ if ticks = some 0 then [.task task .elapsed] else []
        sleeping := state.sleeping ++
          if ticks = some 0 then [] else [⟨task, ticks.map fun ticks => state.clock + ticks⟩] } := by
  unfold wait
  split
  · simp
  · rename_i lasting
    have notZero : ¬ ticks = some 0 := fun zero => lasting zero
    simp only [if_neg notZero, List.append_nil]

theorem fail_stale (state : State World Note Request Inner) (token : Token) (failure : Failure)
    (stale : ¬ state.registry.isCurrent token = true) :
    state.fail token failure =
      (state.log (failureRecords token.key failure)).finish token .nothing := by
  have stillStale :
      ¬ (state.log (failureRecords token.key failure)).registry.isCurrent token = true := stale
  simp only [fail, if_neg stillStale]

theorem deliver_stale (state : State World Note Request Inner) (token : Token)
    (correlation : Correlation) (stale : ¬ state.registry.isCurrent token = true) :
    state.deliver token correlation = (state.log [discardRecord token]).finish token .nothing := by
  simp only [deliver, if_neg stale]

/-- What a stretch of a correlator leaves behind, whatever follows it. -/
def noted (state : State World Note Request Inner)
    (progress : Progress World Note Inner) : State World Note Request Inner :=
  { state with
    world := progress.world
    events := state.events ++ progress.notes.map Event.note
    logs := state.logs ++ progress.logs }

theorem advanceBy_wait (state : State World Note Request Inner) (task : Task Request Inner)
    (progress : Progress World Note Inner) {ticks : Option Nat} {inner : Inner}
    (move : progress.move = .wait ticks inner) :
    state.advanceBy task progress =
      (state.noted progress).wait { task with stage := .correlating inner } ticks := by
  simp only [advanceBy, move, noted]

theorem advanceBy_cancelled (state : State World Note Request Inner) (task : Task Request Inner)
    (progress : Progress World Note Inner) (move : progress.move = .finish .cancelled) :
    state.advanceBy task progress = (state.noted progress).finish task.token .cancelled := by
  simp only [advanceBy, move, noted]

theorem advanceBy_failure (state : State World Note Request Inner) (task : Task Request Inner)
    (progress : Progress World Note Inner) {failure : Failure}
    (move : progress.move = .finish (.failure failure)) :
    state.advanceBy task progress = (state.noted progress).fail task.token failure := by
  simp only [advanceBy, move, noted]

theorem advanceBy_wordless (state : State World Note Request Inner) (task : Task Request Inner)
    (progress : Progress World Note Inner) {isExpected : Bool} {escape : Escape}
    (move : progress.move = .finish (.wordless isExpected escape)) :
    state.advanceBy task progress =
      ((state.noted progress).log (wordlessRecords task.token.key isExpected)).finish task.token
        escape.outcome := by
  simp only [advanceBy, move, noted]

theorem advanceBy_result (state : State World Note Request Inner) (task : Task Request Inner)
    (progress : Progress World Note Inner) {correlation : Correlation}
    (move : progress.move = .finish (.result correlation)) :
    state.advanceBy task progress = (state.noted progress).deliver task.token correlation := by
  simp only [advanceBy, move, noted]

end State

/-! ### Phases -/

inductive Phase where
  | waiting
  | working
  | ended (outcome : Outcome)
deriving DecidableEq

def Stage.phase : Stage Inner → Phase
  | .scheduled => .waiting
  | .debouncing => .waiting
  | .correlating _ => .working

/-- The line that a turn adds to the list of those that have ended. -/
def Phase.ending (token : Token) : Phase → List Finished
  | .ended outcome => [⟨token, outcome⟩]
  | _ => []

/-- The result that was kept on behalf of a task in a phase. -/
def Phase.kept? : Phase → Option Correlation
  | .ended outcome => outcome.kept?
  | _ => none

/-- What a turn makes of the results that are kept. -/
def Phase.store (key : String) (results : Table String Correlation) (phase : Phase) :
    Table String Correlation :=
  phase.kept?.elim results (results.insert key)

def Item.entry? : Item Request Inner → Option (Token × Phase)
  | .task member _ => some (member.token, member.stage.phase)
  | .closing => none

def Sleeper.entry (sleeper : Sleeper Request Inner) : Token × Phase :=
  (sleeper.task.token, sleeper.task.stage.phase)

def Finished.entry (finished : Finished) : Token × Phase :=
  (finished.token, .ended finished.outcome)

/-- All tasks that ever were, with their phases. -/
def State.roster (state : State World Note Request Inner) : List (Token × Phase) :=
  state.ready.filterMap Item.entry? ++ state.sleeping.map Sleeper.entry ++
    state.finished.map Finished.entry

/-! ### What is said -/

/-- Whether the session itself reports an event, and not a correlator. -/
def Event.isSpoken : Event Note → Bool
  | .note _ => false
  | _ => true

def begun : Event Note :=
  .status .recompiling (Status.recompiling.message "")

def failing (failure : Failure) : Event Note :=
  .status (statusAfter failure).1 ((statusAfter failure).1.message (statusAfter failure).2)

/-- What is said of a result that is kept. -/
def keeping (correlation : Correlation) : Event Note :=
  .status (statusWith correlation) ((statusWith correlation).message "")

def delivering (key : String) (correlation : Correlation) : List (Event Note) :=
  [keeping correlation, .result key correlation]

theorem Escape.kept?_outcome (escape : Escape) : escape.outcome.kept? = none := by
  cases escape <;> rfl

/-- What may have been said of a trigger of a key in each phase. -/
inductive Said (key : String) : Phase → List (Event Note) → Prop
  | waiting : Said key .waiting []
  | working : Said key .working [begun]
  | silent (outcome : Outcome) (nothing : outcome.kept? = none) : Said key (.ended outcome) []
  | abandoned (outcome : Outcome) (nothing : outcome.kept? = none) :
      Said key (.ended outcome) [begun]
  | failed (outcome : Outcome) (nothing : outcome.kept? = none) (failure : Failure) :
      Said key (.ended outcome) [begun, failing failure]
  /-- Something escaped from the call-back that was told the status. -/
  | interrupted (correlation : Correlation) (escape : Escape) :
      Said key (.ended (.interrupted correlation escape)) [begun, keeping correlation]
  | delivered (outcome : Outcome) {correlation : Correlation}
      (kept : outcome.kept? = some correlation) :
      Said key (.ended outcome) (begun :: delivering key correlation)

/-! ### What a turn says -/

namespace State

variable {state : State World Note Request Inner} {token : Token}

/-- A current task that fails says so, and ends with nothing or with what escapes then. -/
theorem exists_fail (current : state.registry.isCurrent token = true) (failure : Failure) :
    ∃ outcome : Outcome, outcome.kept? = none ∧ (state.settings.Calm → outcome = .nothing) ∧
      state.fail token failure =
        { state with
          status := (statusAfter failure).1
          detail := (statusAfter failure).2
          finished := state.finished ++ [⟨token, outcome⟩]
          events := state.events ++ [failing failure]
          logs := state.logs ++ failureRecords token.key failure } := by
  have still : (state.log (failureRecords token.key failure)).registry.isCurrent token = true :=
    current
  unfold fail
  simp only [if_pos still]
  unfold tellStatus
  split
  · rename_i escape raised
    refine ⟨escape.outcome, escape.kept?_outcome, fun calm => ?_, rfl⟩
    cases raised.symm.trans (calm.raised?_eq_none _ _)
  · exact ⟨.nothing, rfl, fun _calm => rfl, rfl⟩

/-- A current task that has a result keeps it, says so, and ends unless something escapes before. -/
theorem exists_deliver (current : state.registry.isCurrent token = true)
    (correlation : Correlation) :
    ∃ (outcome : Outcome) (said : List (Event Note)), outcome.kept? = some correlation ∧
      (state.settings.Calm → outcome = .delivered correlation) ∧
      (state.settings.StatusCalm → said = delivering token.key correlation) ∧
      Said token.key (.ended outcome) (begun :: said) ∧
      (said = [keeping correlation] ∨ said = delivering token.key correlation) ∧
      state.deliver token correlation =
        { state with
          registry := { state.registry with
            results := state.registry.results.insert token.key correlation }
          status := statusWith correlation
          detail := ""
          finished := state.finished ++ [⟨token, outcome⟩]
          events := state.events ++ said } := by
  unfold deliver tellStatus
  simp only [if_pos current]
  split
  · rename_i escape raised
    refine ⟨.interrupted correlation escape, [keeping correlation], rfl, fun calm => ?_,
      fun calm => ?_, .interrupted correlation escape, Or.inl rfl, rfl⟩
    · cases raised.symm.trans (calm.raised?_eq_none _ _)
    · cases raised.symm.trans (calm.raised?_eq_none _ _ _)
  · have said (events : List (Event Note)) :
        (events ++ [keeping correlation]) ++ [.result token.key correlation] =
          events ++ delivering token.key correlation := List.append_assoc ..
    unfold announce
    simp only
    split
    · rename_i escape raised
      refine ⟨.interrupted correlation escape, delivering token.key correlation, rfl,
        fun calm => ?_, fun _calm => rfl, .delivered _ rfl, Or.inr rfl, ?_⟩
      · cases raised.symm.trans (calm.raised?_eq_none _ _)
      · rw [← said]
        rfl
    · refine ⟨.delivered correlation, delivering token.key correlation, rfl, fun _calm => rfl,
        fun _calm => rfl, .delivered _ rfl, Or.inr rfl, ?_⟩
      rw [← said]
      rfl

end State

/-! ### Turns -/

/-- What no turn of a task touches. -/
structure Untouched (before after : State World Note Request Inner) : Prop where
  settings : after.settings = before.settings
  clock : after.clock = before.clock
  tokens : after.registry.tokens = before.registry.tokens
  tasks : after.registry.tasks = before.registry.tasks
  nextGeneration : after.registry.nextGeneration = before.registry.nextGeneration

/-- What comes of the turn of a task: it passes from one phase to another, and more is said of it.
The task itself has already been taken from the queue of the earlier state. -/
structure TurnOf (before after : State World Note Request Inner) (token : Token)
    (old new : Phase) (more : List (Event Note)) : Prop
    extends Untouched before after where
  results : after.registry.results = new.store token.key before.registry.results
  finished : after.finished = before.finished ++ new.ending token
  roster : after.roster.Perm ((token, new) :: before.roster)
  events : ∃ events, after.events = before.events ++ events ∧
    events.filter Event.isSpoken = more
  /-- Only who is current is heard. -/
  current : more ≠ [] → before.registry.isCurrent token = true
  unsaid : more = [] → after.status = before.status ∧ after.detail = before.detail ∧
    after.registry.results = before.registry.results
  word : ∀ said, Said token.key old said → Said token.key new (said ++ more)
  /-- A result that is kept is told, if only by a status. -/
  told : ∀ correlation, new.kept? = some correlation → keeping correlation ∈ more ∧
    (before.settings.StatusCalm → .result token.key correlation ∈ more)

theorem filter_isSpoken_notes (notes : List Note) :
    (notes.map Event.note).filter Event.isSpoken = [] := by
  rw [List.filter_eq_nil_iff]
  intro event member
  obtain ⟨note, _present, rfl⟩ := List.mem_map.mp member
  simp [Event.isSpoken]

namespace TurnOf

variable {before after : State World Note Request Inner} {token : Token} {phase : Phase}
  {more : List (Event Note)}

theorem finish (before : State World Note Request Inner) (token : Token) (old : Phase)
    (live : ∀ outcome, old ≠ .ended outcome) (outcome : Outcome)
    (nothing : outcome.kept? = none) :
    TurnOf before (before.finish token outcome) token old (.ended outcome) [] where
  toUntouched := ⟨rfl, rfl, rfl, rfl, rfl⟩
  results := by
    rw [Phase.store, Phase.kept?, nothing]
    rfl
  finished := rfl
  roster := by
    simp only [State.roster, State.finish, List.map_append, List.map_cons, List.map_nil,
      Finished.entry, ← List.append_assoc]
    exact List.perm_append_comm
  events := ⟨[], by simp [State.finish], rfl⟩
  current := fun some => absurd rfl some
  unsaid := fun _ => ⟨rfl, rfl, rfl⟩
  word := by
    intro said before
    rw [List.append_nil]
    cases before with
    | waiting => exact .silent outcome nothing
    | working => exact .abandoned outcome nothing
    | _ => exact absurd rfl (live _)
  told := by
    intro correlation kept
    rw [Phase.kept?, nothing] at kept
    cases kept

theorem wait (before : State World Note Request Inner) (task : Task Request Inner)
    (ticks : Option Nat) :
    TurnOf before (before.wait task ticks) task.token task.stage.phase task.stage.phase [] where
  toUntouched := by rw [State.wait_eq]; exact ⟨rfl, rfl, rfl, rfl, rfl⟩
  results := by
    rw [State.wait_eq]
    cases task.stage <;> rfl
  finished := by
    rw [State.wait_eq]
    cases task.stage <;> exact (List.append_nil _).symm
  roster := by
    rw [State.wait_eq]
    by_cases zero : ticks = some 0
    · simp only [State.roster, if_pos zero, List.filterMap_append, List.filterMap_cons,
        Item.entry?, List.filterMap_nil, List.append_nil]
      rw [List.append_assoc, List.append_assoc, List.append_assoc]
      exact List.perm_middle
    · simp only [State.roster, if_neg zero, List.append_nil, List.map_append, List.map_cons,
        List.map_nil, Sleeper.entry, List.append_assoc, List.cons_append, List.nil_append]
      rw [← List.append_assoc]
      apply List.perm_middle.trans
      rw [List.append_assoc]
  events := ⟨[], by rw [State.wait_eq]; exact (List.append_nil _).symm, rfl⟩
  current := fun some => absurd rfl some
  unsaid := fun _ => by rw [State.wait_eq]; exact ⟨rfl, rfl, rfl⟩
  word := by
    intro said before
    rw [List.append_nil]
    exact before
  told := by
    intro correlation kept
    cases stage : task.stage <;> rw [stage] at kept <;> cases kept

/-- What a correlator does to the world, notes and logs is no word of the session. -/
theorem after_stretch {old : Phase} {progress : Progress World Note Inner}
    (turn : TurnOf (before.noted progress) after token old phase more) :
    TurnOf before after token old phase more where
  toUntouched := ⟨turn.settings, turn.clock, turn.tokens, turn.tasks, turn.nextGeneration⟩
  results := turn.results
  finished := turn.finished
  roster := turn.roster
  events := by
    obtain ⟨events, appended, spoken⟩ := turn.events
    refine ⟨progress.notes.map Event.note ++ events, ?_, ?_⟩
    · rw [appended, State.noted, List.append_assoc]
    · rw [List.filter_append, filter_isSpoken_notes, List.nil_append]
      exact spoken
  current := turn.current
  unsaid := turn.unsaid
  word := turn.word
  told := turn.told

theorem after_log {old : Phase} {records : List LogRecord}
    (turn : TurnOf (before.log records) after token old phase more) :
    TurnOf before after token old phase more where
  toUntouched := ⟨turn.settings, turn.clock, turn.tokens, turn.tasks, turn.nextGeneration⟩
  results := turn.results
  finished := turn.finished
  roster := turn.roster
  events := turn.events
  current := turn.current
  unsaid := turn.unsaid
  word := turn.word
  told := turn.told

/-- A current task says a status, and goes on from there. -/
theorem after_status {old other : Phase} {status : Status} {detail : String}
    (turn : TurnOf (before.setStatus status detail) after token other phase more)
    (current : before.registry.isCurrent token = true)
    (word : ∀ said, Said token.key old said →
      Said token.key phase (said ++ .status status (status.message detail) :: more)) :
    TurnOf before after token old phase (.status status (status.message detail) :: more) where
  toUntouched := ⟨turn.settings, turn.clock, turn.tokens, turn.tasks, turn.nextGeneration⟩
  results := turn.results
  finished := turn.finished
  roster := turn.roster
  events := by
    obtain ⟨events, appended, spoken⟩ := turn.events
    refine ⟨.status status (status.message detail) :: events, ?_, ?_⟩
    · rw [appended, State.setStatus, State.say, List.append_assoc]
      rfl
    · rw [List.filter_cons_of_pos rfl, spoken]
  current := fun _ => current
  unsaid := by simp
  word := word
  told := fun correlation kept =>
    ⟨List.mem_cons_of_mem _ (turn.told correlation kept).1,
      fun calm => List.mem_cons_of_mem _ ((turn.told correlation kept).2 calm)⟩

theorem fail (before : State World Note Request Inner) (token : Token) (failure : Failure)
    (current : before.registry.isCurrent token = true) :
    ∃ outcome, TurnOf before (before.fail token failure) token .working (.ended outcome)
      [failing failure] := by
  obtain ⟨outcome, nothing, _calm, same⟩ := before.exists_fail current failure
  refine ⟨outcome, ?_⟩
  have ended := TurnOf.finish (((before.log (failureRecords token.key failure)).setStatus
    (statusAfter failure).1 (statusAfter failure).2)) token .working (by simp) outcome nothing
  rw [same]
  refine (ended.after_status current fun said told => ?_).after_log
  cases told
  exact .failed outcome nothing failure

theorem deliver (before : State World Note Request Inner) (token : Token)
    (correlation : Correlation) (current : before.registry.isCurrent token = true) :
    ∃ outcome more, TurnOf before (before.deliver token correlation) token .working
      (.ended outcome) more := by
  obtain ⟨outcome, said, kept, _calm, whole, word, told, same⟩ :=
    before.exists_deliver current correlation
  refine ⟨outcome, said, ?_⟩
  rw [same]
  exact
    { toUntouched := ⟨rfl, rfl, rfl, rfl, rfl⟩
      results := by
        rw [Phase.store, Phase.kept?, kept]
        rfl
      finished := rfl
      roster := by
        simp only [State.roster, List.map_append, List.map_cons, List.map_nil, Finished.entry,
          ← List.append_assoc]
        exact List.perm_append_comm
      events := ⟨said, rfl, by rcases told with rfl | rfl <;> rfl⟩
      current := fun _ => current
      unsaid := by rcases told with rfl | rfl <;> simp [delivering]
      word := by
        intro earlier told
        cases told
        exact word
      told := by
        intro other same
        rw [Phase.kept?, kept] at same
        cases same
        refine ⟨by rcases told with rfl | rfl <;> simp [delivering], fun calm => ?_⟩
        rw [whole calm]
        simp [delivering] }

end TurnOf

/-! ### Every turn is one of these -/

namespace State

theorem advanceBy_turnOf (before : State World Note Request Inner) (task : Task Request Inner)
    (progress : Progress World Note Inner) :
    ∃ phase more,
      TurnOf before (before.advanceBy task progress) task.token .working phase more := by
  have working_live : ∀ outcome, Phase.working ≠ .ended outcome := by simp
  cases move : progress.move with
  | wait ticks inner =>
      have turn := TurnOf.wait (before.noted progress) { task with stage := .correlating inner } ticks
      rw [← advanceBy_wait before task progress move] at turn
      exact ⟨.working, [], turn.after_stretch⟩
  | finish ending =>
      cases ending with
      | cancelled =>
          rw [advanceBy_cancelled before task progress move]
          have turn := TurnOf.finish (before.noted progress) task.token .working working_live
            .cancelled rfl
          exact ⟨.ended .cancelled, [], turn.after_stretch⟩
      | wordless isExpected escape =>
          rw [advanceBy_wordless before task progress move]
          have turn := TurnOf.finish
            ((before.noted progress).log (wordlessRecords task.token.key isExpected)) task.token
            .working working_live escape.outcome escape.kept?_outcome
          exact ⟨_, [], turn.after_log.after_stretch⟩
      | failure failure =>
          rw [advanceBy_failure before task progress move]
          by_cases current : (before.noted progress).registry.isCurrent task.token = true
          · obtain ⟨outcome, turn⟩ :=
              TurnOf.fail (before.noted progress) task.token failure current
            exact ⟨.ended outcome, [failing failure], turn.after_stretch⟩
          · rw [fail_stale _ _ _ current]
            have turn := TurnOf.finish
              ((before.noted progress).log (failureRecords task.token.key failure)) task.token
              .working working_live .nothing rfl
            exact ⟨.ended .nothing, [], turn.after_log.after_stretch⟩
      | result correlation =>
          rw [advanceBy_result before task progress move]
          by_cases current : (before.noted progress).registry.isCurrent task.token = true
          · obtain ⟨outcome, more, turn⟩ :=
              TurnOf.deliver (before.noted progress) task.token correlation current
            exact ⟨.ended outcome, more, turn.after_stretch⟩
          · rw [deliver_stale _ _ _ current]
            have turn := TurnOf.finish ((before.noted progress).log [discardRecord task.token])
              task.token .working working_live .nothing rfl
            exact ⟨.ended .nothing, [], turn.after_log.after_stretch⟩

theorem debounce_turnOf (before : State World Note Request Inner) (task : Task Request Inner) :
    ∃ phase more, TurnOf before (before.debounce task) task.token .waiting phase more := by
  have waits (ticks : Option Nat) :
      TurnOf before (before.wait { task with stage := .debouncing } ticks) task.token .waiting
        .waiting [] := TurnOf.wait before { task with stage := .debouncing } ticks
  unfold debounce
  cases before.settings.debounce with
  | none => exact ⟨.waiting, [], waits none⟩
  | some span =>
      cases span with
      | ticks count => exact ⟨.waiting, [], waits (some count)⟩
      | immeasurable =>
          exact ⟨_, [], TurnOf.finish before task.token .waiting (by simp) _ rfl⟩

/-- A current task whose wait is over says that it begins. -/
theorem begin_turnOf (before : State World Note Request Inner) (task : Task Request Inner)
    (progress : State World Note Request Inner → Progress World Note Inner)
    (current : before.registry.isCurrent task.token = true) :
    ∃ phase more, TurnOf before
      (before.tellStatus task.token .recompiling "" Escape.outcome fun state =>
        state.advanceBy task (progress state)) task.token .waiting phase more := by
  unfold tellStatus
  split
  · rename_i escape _raised
    have ended := TurnOf.finish (before.setStatus .recompiling "") task.token .waiting (by simp)
      escape.outcome escape.kept?_outcome
    refine ⟨_, _, ended.after_status current fun said told => ?_⟩
    cases told
    exact .abandoned _ escape.kept?_outcome
  · obtain ⟨phase, more, turn⟩ := advanceBy_turnOf (before.setStatus .recompiling "") task
      (progress (before.setStatus .recompiling ""))
    refine ⟨phase, _, turn.after_status current fun said told => ?_⟩
    cases told
    exact turn.word [begun] .working

/-- Whatever turn a task takes, it passes from its phase to another and is heard only if current. -/
theorem runTask_turnOf (behaviour : Behaviour World Note Request Inner)
    (before : State World Note Request Inner) (task : Task Request Inner) (wake : Wake) :
    ∃ phase more, TurnOf before (runTask behaviour before task wake) task.token task.stage.phase
      phase more := by
  have cancelled : TurnOf before (before.finish task.token .cancelled) task.token .waiting
      (.ended .cancelled) [] := TurnOf.finish before task.token .waiting (by simp) _ rfl
  cases stage : task.stage with
  | scheduled =>
      cases wake with
      | cancelled =>
          simp only [runTask, stage]
          exact ⟨_, _, cancelled⟩
      | elapsed =>
          simp only [runTask, stage]
          exact debounce_turnOf before task
  | debouncing =>
      cases wake with
      | cancelled =>
          simp only [runTask, stage]
          exact ⟨_, _, cancelled⟩
      | elapsed =>
          simp only [runTask, stage]
          by_cases current : before.registry.isCurrent task.token = true
          · rw [if_pos current]
            exact begin_turnOf before task _ current
          · rw [if_neg current]
            exact ⟨_, _, TurnOf.finish before task.token .waiting (by simp) .nothing rfl⟩
  | correlating inner =>
      simp only [runTask, stage]
      exact advanceBy_turnOf before task _

end State

end ListingAtlas.Session
