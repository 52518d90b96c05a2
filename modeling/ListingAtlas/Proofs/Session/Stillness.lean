import ListingAtlas.Proofs.Session.Registry
import ListingAtlas.Proofs.Session.Script

/-!
Between ticks a session is silent. If triggers are debounced, then what is ready when an operation
begins has either just been triggered or is not current any more, so that no operation is heard in
which no time passes.
-/

namespace ListingAtlas.Session

variable {World Note Request Inner : Type}

/-- A session whose triggers wait for some time, where nothing that is ready can be heard. -/
structure Still (state : State World Note Request Inner) : Prop where
  debounced : state.settings.debounce ≠ some (.ticks 0)
  unheard : ∀ task wake, Item.task task wake ∈ state.ready →
    task.stage = .scheduled ∨ state.registry.isCurrent task.token = false

theorem still_of_settled {state : State World Note Request Inner}
    (debounced : state.settings.debounce ≠ some (.ticks 0)) (settled : state.ready = []) :
    Still state := by
  refine ⟨debounced, ?_⟩
  intro task wake queued
  rw [settled] at queued
  cases queued

theorem unheard_of_same {before after : State World Note Request Inner}
    (status : after.status = before.status) (detail : after.detail = before.detail)
    (results : after.registry.results = before.registry.results)
    (events : after.events = before.events) : Unheard before after :=
  ⟨status, detail, fun key => congrArg (Table.get? · key) results, [],
    events.trans (List.append_nil _).symm⟩

theorem Unheard.trans {before between after : State World Note Request Inner}
    (first : Unheard before between) (second : Unheard between after) : Unheard before after := by
  obtain ⟨earlier, before⟩ := first.events
  obtain ⟨later, after⟩ := second.events
  refine ⟨second.status.trans first.status, second.detail.trans first.detail,
    fun key => (second.latest key).trans (first.latest key), earlier ++ later, ?_⟩
  rw [after, before, List.append_assoc, ← List.map_append]

/-! ### Turns -/

theorem State.runTask_scheduled (behaviour : Behaviour World Note Request Inner)
    (state : State World Note Request Inner) (task : Task Request Inner) (wake : Wake)
    (stage : task.stage = .scheduled) : Unheard state (runTask behaviour state task wake) := by
  cases wake with
  | cancelled =>
      simp only [runTask, stage]
      exact unheard_of_same rfl rfl rfl rfl
  | elapsed =>
      simp only [runTask, stage, debounce]
      split
      · rw [wait_eq]
        exact unheard_of_same rfl rfl rfl rfl
      · rw [wait_eq]
        exact unheard_of_same rfl rfl rfl rfl
      · exact unheard_of_same rfl rfl rfl rfl

/-- A stretch of a task that was ready in stillness puts nothing into the queue that can be heard. -/
theorem Still.place {behaviour : Behaviour World Note Request Inner}
    {state : State World Note Request Inner} {task : Task Request Inner} {wake : Wake}
    {place : Place Request Inner} (debounced : state.settings.debounce ≠ some (.ticks 0))
    (unheard : task.stage = .scheduled ∨ state.registry.isCurrent task.token = false)
    (goes : Goes behaviour state task wake place) {other : Task Request Inner} {otherWake : Wake}
    (queued : Item.task other otherWake ∈ place.items) :
    state.registry.isCurrent other.token = false := by
  have named : other.token = task.token := by
    have own := goes.of
    cases place with
    | queued member _ =>
        rw [Place.items, List.mem_singleton, Item.task.injEq] at queued
        rw [queued.1]
        exact own
    | _ => cases queued
  rw [named]
  rcases unheard with scheduled | stale
  · cases goes with
    | debounce ticks stage elapsed agreed =>
        have lasting : ticks ≠ some 0 := by
          intro zero
          rw [zero] at agreed
          exact debounced agreed
        rw [Place.waiting, if_neg lasting] at queued
        cases queued
    | start _place stage elapsed current led =>
        rw [scheduled] at stage
        cases stage
    | resume _place inner stage led =>
        rw [scheduled] at stage
        cases stage
    | drop outcome early => cases queued
  · exact stale

theorem Still.turn {state : State World Note Request Inner} (still : Still state)
    (behaviour : Behaviour World Note Request Inner) (position : Nat) :
    Still (state.occur behaviour (.turn position)) ∧
      Unheard state (state.occur behaviour (.turn position)) := by
  have erased (item : Item Request Inner) (kept : item ∈ (state.taken position).ready) :
      item ∈ state.ready := (List.eraseIdx_sublist _ _).subset kept
  rcases state.occur_turn_cases behaviour position with
    ⟨_found, same⟩ | ⟨_found, closes⟩ | ⟨task, wake, found, run⟩
  · rw [same]
    exact ⟨still, unheard_of_same rfl rfl rfl rfl⟩
  · have quiet := State.beginClosing_quiet (state.taken position)
    rw [closes]
    refine ⟨⟨?_, ?_⟩,
      unheard_of_same quiet.status quiet.detail quiet.results quiet.events⟩
    · rw [quiet.settings]
      exact still.debounced
    · intro task wake _queued
      right
      unfold Registry.isCurrent
      rw [State.tokens_beginClosing]
  · obtain ⟨new, more, turn⟩ := State.runTask_turnOf behaviour (state.taken position) task wake
    obtain ⟨place, goes, moved⟩ :=
      State.runTask_moved behaviour (state.taken position) task wake
    have ready := still.unheard task wake (List.mem_of_getElem? found)
    have sameTokens (token : Token) :
        (State.runTask behaviour (state.taken position) task wake).registry.isCurrent token =
          state.registry.isCurrent token :=
      isCurrent_congr (congrArg (Table.get? · token.key) turn.tokens)
    rw [run]
    refine ⟨⟨?_, ?_⟩, ?_⟩
    · rw [turn.settings]
      exact still.debounced
    · intro other otherWake queued
      rw [sameTokens]
      rw [moved.ready, List.mem_append] at queued
      rcases queued with kept | put
      · exact still.unheard other otherWake (erased _ kept)
      · have debounced : (state.taken position).settings.debounce ≠ some (.ticks 0) :=
          still.debounced
        exact Or.inr (Still.place debounced ready goes put)
    · rcases ready with scheduled | stale
      · have silent := State.runTask_scheduled behaviour (state.taken position) task wake
          scheduled
        exact ⟨silent.status, silent.detail, silent.latest, silent.events⟩
      · have nothing : more = [] := by
          by_contra spoken
          have current := turn.current spoken
          change state.registry.isCurrent task.token = true at current
          rw [stale] at current
          cases current
        rw [nothing] at turn
        have silent := turn.unheard
        exact ⟨silent.status, silent.detail, silent.latest, silent.events⟩

/-! ### Operations -/

theorem State.mem_roster_ready {state : State World Note Request Inner}
    {task : Task Request Inner} {wake : Wake} (queued : Item.task task wake ∈ state.ready) :
    (task.token, task.stage.phase) ∈ state.roster :=
  List.mem_append_left _ (List.mem_append_left _ (List.mem_filterMap.mpr ⟨_, queued, rfl⟩))

theorem State.mem_roster_sleeping {state : State World Note Request Inner}
    {sleeper : Sleeper Request Inner} (asleep : sleeper ∈ state.sleeping) :
    (sleeper.task.token, sleeper.task.stage.phase) ∈ state.roster :=
  List.mem_append_left _ (List.mem_append_right _ (List.mem_map_of_mem asleep))

/-- Superseding a key wakes no task but the newest of the key. -/
theorem State.mem_supersede_ready {state : State World Note Request Inner} {key : String}
    {task : Task Request Inner} {wake : Wake}
    (queued : Item.task task wake ∈ (state.supersede key).ready) :
    (∃ before, Item.task task before ∈ state.ready) ∨
      ∃ sleeper ∈ state.sleeping, sleeper.task = task ∧
        state.registry.tasks.get? key = some task.token.generation := by
  obtain ⟨registry, _tasks, ⟨_none, same⟩ | ⟨generation, newest, same⟩⟩ :=
    state.supersede_cases key
  · rw [same] at queued
    exact Or.inl ⟨wake, queued⟩
  · rw [same] at queued
    change Item.task task wake ∈ state.ready.map (Item.cancelled generation) ++
      (state.sleeping.partition fun sleeper =>
        sleeper.task.token.generation == generation).1.map _ at queued
    rcases List.mem_append.mp queued with ready | woken
    · obtain ⟨item, present, made⟩ := List.mem_map.mp ready
      cases item with
      | closing => cases made
      | task member before =>
          simp only [Item.cancelled, Item.task.injEq] at made
          rw [made.1] at present
          exact Or.inl ⟨before, present⟩
    · obtain ⟨sleeper, present, made⟩ := List.mem_map.mp woken
      rw [List.partition_eq_filter_filter, List.mem_filter, beq_iff_eq] at present
      rw [Item.task.injEq] at made
      exact Or.inr ⟨sleeper, present.1, made.1, by rw [newest, ← present.2, made.1]⟩

section

variable {settings : Settings} {history : History World Note Request Inner}

/-- A call that counts for a key wakes only what it makes stale. -/
theorem Still.of_call (still : Still history.state) (sound : Sound settings history)
    (registered : Registered history.state) {call : Call}
    {after : State World Note Request Inner} (only : CallOnly (some call) history.state after)
    {key : String} (ends : call.Ends key)
    (ready : ∀ task wake, Item.task task wake ∈ after.ready →
      task.stage = .scheduled ∨ Item.task task wake ∈ (history.state.supersede key).ready) :
    Still after := by
  refine ⟨?_, ?_⟩
  · rw [only.settings]
    exact still.debounced
  · intro task wake queued
    rcases ready task wake queued with scheduled | kept
    · exact Or.inl scheduled
    · rcases State.mem_supersede_ready kept with ⟨before, present⟩ | ⟨sleeper, asleep, rfl, newest⟩
      · have issued := sound.issued _ (State.mem_roster_ready present)
        rcases still.unheard task before present with scheduled | stale
        · exact Or.inl scheduled
        · exact Or.inr (only.stale issued stale)
      · have member := State.mem_roster_sleeping asleep
        have issued := sound.issued _ member
        have named := (registered key _ newest).2 _ member rfl
        rw [← named] at ends
        exact Or.inr (only.stale_of_ends issued ends)

theorem Still.trigger (still : Still history.state) (sound : Sound settings history)
    (registered : Registered history.state) (key : String) (source : Path) (request : Request) :
    Still (history.state.trigger key source request) := by
  have only := occur_trigger history.state key source request
  by_cases accepted : State.accepts source = true
  · simp only [callOf?, if_pos accepted] at only
    apply still.of_call sound registered only rfl
    intro task wake queued
    simp only [State.trigger, if_pos accepted] at queued
    rcases List.mem_append.mp queued with kept | new
    · exact Or.inr kept
    · rw [List.mem_singleton, Item.task.injEq] at new
      rw [new.1]
      exact Or.inl rfl
  · simp only [State.trigger, if_neg accepted]
    exact ⟨still.debounced, still.unheard⟩

theorem Still.cancel (still : Still history.state) (sound : Sound settings history)
    (registered : Registered history.state) (key : String) :
    Still (history.state.cancelKey key) := by
  have only := cancelKey_callOnly history.state key
  exact still.of_call sound registered only rfl fun _task _wake queued => Or.inr queued

end

/-! ### Silence between ticks -/

namespace History

variable {settings : Settings} {correlator : Correlator World Note Request Inner}
  {history : History World Note Request Inner}

theorem settle_still (correlator : Correlator World Note Request Inner)
    (still : Still history.state) :
    Still (history.settle correlator).state ∧
      Unheard history.state (history.settle correlator).state := by
  refine settle_induction
    (fun next => Still next.state ∧ Unheard history.state next.state) ?_
    ⟨still, unheard_of_same rfl rfl rfl rfl⟩
  intro next before
  have after := before.1.turn correlator.toBehaviour 0
  exact ⟨after.1, before.2.trans after.2⟩

theorem pass_ready (ticks : Nat) (history : History World Note Request Inner) :
    (history.pass correlator ticks).state.ready = [] := by
  induction ticks generalizing history with
  | zero => exact settle_ready history
  | succ ticks ih => exact ih _

theorem perform_still (sound : Sound settings history) (registered : Registered history.state)
    (still : Still history.state) (operation : Operation Request) :
    Still (history.perform correlator operation).state := by
  have configured : (history.perform correlator operation).state.settings = settings := by
    have next := perform_induction (Sound settings)
      (fun _history occurrence before => before.extend correlator.toBehaviour occurrence)
      sound operation
    exact next.configured
  have debounced : (history.perform correlator operation).state.settings.debounce ≠
      some (.ticks 0) := by
    rw [configured, ← sound.configured]
    exact still.debounced
  cases operation with
  | trigger key source request =>
      rw [perform_trigger, extend_state, State.occur]
      exact still.trigger sound registered key source request
  | cancel key =>
      rw [perform_cancel, extend_state, State.occur]
      exact still.cancel sound registered key
  | forget key =>
      rw [perform_forget, extend_state, State.occur]
      exact ⟨still.debounced, still.unheard⟩
  | close =>
      rw [perform_close] at debounced ⊢
      exact still_of_settled debounced (settle_ready _)
  | advance ticks =>
      rw [perform_advance] at debounced ⊢
      exact still_of_settled debounced (pass_ready ticks history)

/-- No operation is heard in which no time passes. -/
theorem perform_unheard (still : Still history.state) {operation : Operation Request}
    (atOnce : ∀ ticks, operation ≠ .advance (ticks + 1)) :
    Unheard history.state (history.perform correlator operation).state := by
  cases operation with
  | trigger key source request =>
      rw [perform_trigger, extend_state, State.occur]
      exact (occur_trigger history.state key source request).toQuiet.unheard
  | cancel key =>
      rw [perform_cancel, extend_state, State.occur]
      exact (State.cancelKey_quiet history.state key).unheard
  | forget key =>
      rw [perform_forget, extend_state, State.occur]
      exact unheard_of_same rfl rfl rfl rfl
  | close =>
      rw [perform_close]
      have queued : Still (history.extend correlator.toBehaviour .queueClose).state := by
        refine ⟨still.debounced, ?_⟩
        intro task wake present
        rcases List.mem_append.mp present with kept | new
        · exact still.unheard task wake kept
        · rw [List.mem_singleton] at new
          cases new
      have silent := (settle_still correlator queued).2
      exact ⟨silent.status, silent.detail, silent.latest, silent.events⟩
  | advance ticks =>
      cases ticks with
      | succ ticks => exact absurd rfl (atOnce ticks)
      | zero =>
          rw [perform_advance]
          exact (settle_still correlator still).2

end History

end ListingAtlas.Session
