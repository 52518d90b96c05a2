import ListingAtlas.Proofs.Session.Fate
import ListingAtlas.Proofs.Session.Newest
import ListingAtlas.Session.Planned

/-!
Failures of correlators. A failure ends its task with nothing. That of the newest trigger of a key
shows in the status and is told, and that of any other is only logged. Two kinds of failure get out
of a task: a debounce that no clock measures, and what comes of a failure that cannot say what it is.
-/

namespace ListingAtlas.Session

variable {World Note Request Inner : Type}

/-- The stretch of the correlator that the turn of a task leads to, if it leads to one. -/
def State.stretch? (behaviour : Behaviour World Note Request Inner)
    (state : State World Note Request Inner) (task : Task Request Inner) (wake : Wake) :
    Option (Progress World Note Inner) :=
  match task.stage, wake with
  | .correlating inner, wake => some (behaviour.resume state.world inner wake)
  | .debouncing, .elapsed =>
      if state.registry.isCurrent task.token && (state.raised? begun).isNone then
        some (behaviour.start state.world task.request task.token)
      else none
  | _, _ => none

/-- What is said before a stretch of the correlator: the first one is announced. -/
def Stage.announced : Stage Inner → List (Event Note)
  | .debouncing => [begun]
  | _ => []

section

variable {behaviour : Behaviour World Note Request Inner}
  {state : State World Note Request Inner} {task : Task Request Inner} {wake : Wake}
  {progress : Progress World Note Inner} {failure : Failure}

/-! ### The newest trigger is current -/

/-- The token of the newest trigger of a key is kept, uncancelled. -/
theorem tokens_of_newest (behaviour : Behaviour World Note Request Inner) (settings : Settings)
    (world : World) (past : List (Occurrence World Request)) :
    ∀ key generation, IsNewest key generation (History.of behaviour settings world past).calls →
      (History.of behaviour settings world past).state.registry.tokens.get? key =
        some (Token.issue key generation) := by
  let Kept (history : History World Note Request Inner) : Prop :=
    ∀ key generation, IsNewest key generation history.calls →
      history.state.registry.tokens.get? key = some (Token.issue key generation)
  change Kept (History.of behaviour settings world past)
  refine History.of_induction ?_ ?_ past
  · rintro key generation ⟨earlier, later, calls, _unended⟩
    cases earlier <;> cases calls
  · intro history occurrence kept key generation newest
    change (history.state.occur behaviour occurrence).registry.tokens.get? key = _
    change IsNewest key generation (history.calls ++ _) at newest
    cases spoken : speaker? history.state occurrence with
    | some task =>
        obtain ⟨position, wake, rfl, found⟩ := speaker?_eq_some spoken
        obtain ⟨new, more, turn⟩ := history.state.occur_turnOf behaviour found
        rw [callOf?_of_speaker found, Option.toList_none, List.append_nil] at newest
        rw [turn.tokens]
        exact kept key generation newest
    | none =>
        rw [(occur_callOnly behaviour history.state occurrence spoken).tokens]
        cases made : callOf? history.state occurrence with
        | none =>
            rw [made, Option.toList_none, List.append_nil] at newest
            exact kept key generation newest
        | some call =>
            rw [made, Option.toList_some] at newest
            rw [Option.elim_some]
            rcases isNewest_append_one newest with rfl | ⟨unended, before⟩
            · exact if_pos rfl
            · rw [kept key generation before]
              cases call with
              | accepted other _number => exact if_neg fun same => unended same.symm
              | cancelled other => exact if_neg fun same => unended same.symm
              | closed => exact absurd trivial unended

theorem isCurrent_iff_newest (behaviour : Behaviour World Note Request Inner) (settings : Settings)
    (world : World) (past : List (Occurrence World Request)) (token : Token) :
    (History.of behaviour settings world past).state.registry.isCurrent token = true ↔
      IsNewest token.key token.generation (History.of behaviour settings world past).calls := by
  constructor
  · exact (sound_of behaviour settings world past).isNewest
  · intro newest
    unfold Registry.isCurrent
    rw [tokens_of_newest behaviour settings world past _ _ newest]
    simp [Token.issue]

/-! ### Outcomes -/

/-- Some stretch of the correlator ends in a failure whose text cannot be made. -/
def Behaviour.EndsWordless (behaviour : Behaviour World Note Request Inner) (escape : Escape) :
    Prop :=
  (∃ world request token isExpected, (behaviour.start world request token).move =
      .finish (.wordless isExpected escape)) ∨
    ∃ world inner wake isExpected, (behaviour.resume world inner wake).move =
      .finish (.wordless isExpected escape)

/-- How tasks end whose call-backs return. -/
inductive Settles (behaviour : Behaviour World Note Request Inner) (settings : Settings) :
    Outcome → Prop
  | nothing : Settles behaviour settings .nothing
  | cancelled : Settles behaviour settings .cancelled
  | delivered (correlation : Correlation) : Settles behaviour settings (.delivered correlation)
  | endless (debounce : settings.debounce = some .immeasurable) :
      Settles behaviour settings (.failed .immeasurableTime)
  | wordless {escape : Escape} (ends : behaviour.EndsWordless escape) :
      Settles behaviour settings escape.outcome

theorem Settles.of_move {settings : Settings} {move : Move Inner} {current : Bool}
    {outcome : Outcome} (ends : move.fate current = .ends outcome)
    (told : ∀ isExpected escape, move = .finish (.wordless isExpected escape) →
      behaviour.EndsWordless escape) : Settles behaviour settings outcome := by
  cases move with
  | wait ticks inner => cases ends
  | finish ending =>
      cases ending with
      | result correlation =>
          cases current with
          | true =>
              cases ends
              exact .delivered correlation
          | false =>
              cases ends
              exact .nothing
      | failure failure =>
          cases ends
          exact .nothing
      | wordless isExpected escape =>
          cases ends
          exact .wordless (told isExpected escape rfl)
      | cancelled =>
          cases ends
          exact .cancelled

theorem State.settles_of_fate (state : State World Note Request Inner) {outcome : Outcome}
    (ends : state.fate behaviour task wake = .ends outcome) :
    Settles behaviour state.settings outcome := by
  unfold State.fate at ends
  split at ends
  · exact .of_move ends fun isExpected escape move => Or.inr ⟨_, _, _, isExpected, move⟩
  · cases ends
    exact .cancelled
  · unfold Settings.fate at ends
    split at ends
    · cases ends
    · cases ends
    · rename_i endless
      cases ends
      exact .endless endless
  · split at ends
    · exact .of_move ends fun isExpected escape move => Or.inl ⟨_, _, _, isExpected, move⟩
    · cases ends
      exact .nothing

theorem settles_of_calm (behaviour : Behaviour World Note Request Inner) {settings : Settings}
    (calm : settings.Calm) (world : World) (past : List (Occurrence World Request)) :
    ∀ finished ∈ (History.of behaviour settings world past).state.finished,
      Settles behaviour settings finished.outcome := by
  let Kept (history : History World Note Request Inner) : Prop :=
    Sound settings history ∧
      ∀ finished ∈ history.state.finished, Settles behaviour settings finished.outcome
  suffices kept : Kept (History.of behaviour settings world past) from kept.2
  have initially : Kept (History.begin settings world) :=
    ⟨sound_begin settings world, fun finished present => by cases present⟩
  refine History.of_induction initially ?_ past
  rintro history occurrence ⟨sound, kept⟩
  refine ⟨sound.extend behaviour occurrence, ?_⟩
  intro finished present
  change finished ∈ (history.state.occur behaviour occurrence).finished at present
  cases spoken : speaker? history.state occurrence with
  | none =>
      rw [(occur_callOnly behaviour history.state occurrence spoken).finished] at present
      exact kept finished present
  | some task =>
      obtain ⟨position, wake, rfl, found⟩ := speaker?_eq_some spoken
      have silent : (history.state.taken position).settings.Calm := sound.configured ▸ calm
      have moved := (history.state.taken position).runTask_fate behaviour silent task wake
      rw [State.occur_turn found, moved.finished] at present
      rcases List.mem_append.mp present with old | new
      · exact kept finished old
      · rw [← sound.configured]
        apply (history.state.taken position).settles_of_fate
        cases fate : (history.state.taken position).fate behaviour task wake with
        | waits stage ticks =>
            rw [fate, Fate.place, Place.waiting] at new
            split at new <;> cases new
        | ends outcome =>
            rw [fate, Fate.place, Place.endings, List.mem_singleton] at new
            rw [new]

/-! ### Failures -/

theorem State.advanceBy_failed (state : State World Note Request Inner)
    (calm : state.settings.Calm) (task : Task Request Inner)
    (move : progress.move = .finish (.failure failure)) :
    state.advanceBy task progress =
      if state.registry.isCurrent task.token then
        { state with
          world := progress.world
          status := (statusAfter failure).1
          detail := (statusAfter failure).2
          finished := state.finished ++ [⟨task.token, .nothing⟩]
          events := state.events ++ progress.notes.map Event.note ++ [failing failure]
          logs := state.logs ++ progress.logs ++ failureRecords task.token.key failure }
      else
        { state with
          world := progress.world
          finished := state.finished ++ [⟨task.token, .nothing⟩]
          events := state.events ++ progress.notes.map Event.note
          logs := state.logs ++ progress.logs ++ failureRecords task.token.key failure } := by
  rw [advanceBy_failure state task progress move]
  by_cases current : state.registry.isCurrent task.token = true
  · have still : (state.noted progress).registry.isCurrent task.token = true := current
    obtain ⟨outcome, _kept, silent, same⟩ := (state.noted progress).exists_fail still failure
    rw [if_pos current, same, silent calm]
    rfl
  · have still : ¬ (state.noted progress).registry.isCurrent task.token = true := current
    rw [if_neg current, fail_stale _ _ _ still]
    rfl

/-- The turn in which a correlator fails. -/
theorem State.runTask_failed (state : State World Note Request Inner)
    (calm : state.settings.Calm) (stretch : state.stretch? behaviour task wake = some progress)
    (move : progress.move = .finish (.failure failure)) :
    state.runTask behaviour task wake =
      if state.registry.isCurrent task.token then
        { state with
          world := progress.world
          status := (statusAfter failure).1
          detail := (statusAfter failure).2
          finished := state.finished ++ [⟨task.token, .nothing⟩]
          events := state.events ++ task.stage.announced ++ progress.notes.map Event.note ++
            [failing failure]
          logs := state.logs ++ progress.logs ++ failureRecords task.token.key failure }
      else
        { state with
          world := progress.world
          finished := state.finished ++ [⟨task.token, .nothing⟩]
          events := state.events ++ progress.notes.map Event.note
          logs := state.logs ++ progress.logs ++ failureRecords task.token.key failure } := by
  cases stage : task.stage with
  | scheduled => simp only [stretch?, stage] at stretch; cases stretch
  | correlating inner =>
      simp only [stretch?, stage, Option.some.injEq] at stretch
      simp only [runTask, stage, stretch, advanceBy_failed state calm task move, Stage.announced,
        List.append_nil]
  | debouncing =>
      cases wake with
      | cancelled => simp only [stretch?, stage] at stretch; cases stretch
      | elapsed =>
          simp only [stretch?, stage] at stretch
          split at stretch
          · rename_i begins
            have current := (Bool.and_eq_true_iff.mp begins).1
            rw [Option.some.injEq] at stretch
            simp only [runTask, stage, if_pos current, tellStatus_calm calm]
            change ((state.setStatus .recompiling "").advanceBy task
              (behaviour.start state.world task.request task.token)) = _
            rw [stretch, (state.setStatus .recompiling "").advanceBy_failed calm task move]
            exact if_pos current
          · cases stretch

/-! ### Failures stay inside -/

/-- In every history, whatever its schedule and its correlators: where call-backs only record, a task
that has ended has come to nothing, was cancelled or has delivered its result, unless its debounce
could not begin or its correlator failed without words. Where a correlator fails on behalf of the
newest trigger of a key, nothing else changes of the session but its status, which is told; and where
it fails on behalf of any other, nothing at all changes and nothing is told. In either case the
failure is logged, and its task ends with nothing. -/
theorem failures_stay_inside (behaviour : Behaviour World Note Request Inner)
    (debounce : Option Span) (statuses results : Bool) (world : World)
    (past : List (Occurrence World Request)) :
    let settings := Settings.recording debounce statuses results
    let history := History.of behaviour settings world past
    (∀ finished ∈ history.state.finished,
      finished.outcome = .nothing ∨ finished.outcome = .cancelled ∨
        (∃ correlation, finished.outcome = .delivered correlation ∧
          spokenOf finished.token.generation history.ledger =
            begun :: delivering finished.token.key correlation) ∨
        (debounce = some .immeasurable ∧ finished.outcome = .failed .immeasurableTime) ∨
        ∃ escape, behaviour.EndsWordless escape ∧ finished.outcome = escape.outcome) ∧
    (∀ position task wake progress failure,
      history.state.ready[position]? = some (.task task wake) →
      history.state.stretch? behaviour task wake = some progress →
      progress.move = .finish (.failure failure) →
      let state := history.state
      (IsNewest task.token.key task.token.generation history.calls →
        state.occur behaviour (.turn position) =
          { state with
            world := progress.world
            status := (statusAfter failure).1
            detail := (statusAfter failure).2
            ready := state.ready.eraseIdx position
            finished := state.finished ++ [⟨task.token, .nothing⟩]
            events := state.events ++ task.stage.announced ++ progress.notes.map Event.note ++
              [failing failure]
            logs := state.logs ++ progress.logs ++ failureRecords task.token.key failure }) ∧
      (¬ IsNewest task.token.key task.token.generation history.calls →
        state.occur behaviour (.turn position) =
          { state with
            world := progress.world
            ready := state.ready.eraseIdx position
            finished := state.finished ++ [⟨task.token, .nothing⟩]
            events := state.events ++ progress.notes.map Event.note
            logs := state.logs ++ progress.logs ++
              failureRecords task.token.key failure })) := by
  intro settings history
  have calm : settings.Calm := Settings.recording_calm debounce statuses results
  have sound : Sound settings history := sound_of behaviour settings world past
  constructor
  · intro finished present
    have settles := settles_of_calm behaviour calm world past finished present
    generalize same : finished.outcome = outcome at settles
    cases settles with
    | nothing => exact Or.inl rfl
    | cancelled => exact Or.inr (Or.inl rfl)
    | endless endless => exact Or.inr (Or.inr (Or.inr (Or.inl ⟨endless, rfl⟩)))
    | wordless ends => exact Or.inr (Or.inr (Or.inr (Or.inr ⟨_, ends, rfl⟩)))
    | delivered correlation =>
        have member : finished.entry ∈ history.state.roster :=
          List.mem_append_right _ (List.mem_map_of_mem present)
        obtain ⟨said, ending, spoken⟩ := sound.said _ member
        rw [Finished.entry, same] at ending
        refine Or.inr (Or.inr (Or.inl ⟨correlation, rfl, ?_⟩))
        cases ending with
        | delivered _ kept =>
            cases kept
            exact spoken
        | silent _ nothing => cases nothing
        | abandoned _ nothing => cases nothing
        | failed _ nothing => cases nothing
  · intro position task wake progress failure found stretch move state
    have silent : (state.taken position).settings.Calm := sound.configured ▸ calm
    have failed := (state.taken position).runTask_failed silent stretch move
    have current : (state.taken position).registry.isCurrent task.token = true ↔
        IsNewest task.token.key task.token.generation history.calls :=
      isCurrent_iff_newest behaviour settings world past task.token
    rw [State.occur_turn found, failed]
    exact ⟨fun newest => if_pos (current.mpr newest),
      fun stale => if_neg fun counts => stale (current.mp counts)⟩

end

/-- A debounce that no clock measures is a failure that a task ends with. -/
theorem planned_debounce_overflows :
    let settings := Settings.recording (some .immeasurable) true true
    let source : Path := { root := "", parts := ["main.c"] }
    let plan : Plan := ⟨"a", .ticks 1, .result { sourceName := "main.c", entries := [] }, none⟩
    (History.of (planned Unit).toBehaviour settings ()
      [.trigger "k" source plan, .turn 0]).state.finished =
        [⟨Token.issue "k" 1, .failed .immeasurableTime⟩] := by
  decide

end ListingAtlas.Session
