import ListingAtlas.Proofs.Session.Seats

/-!
Rules for where tasks stand. A rule tells where tasks may stand that are current, and where tasks that
are not. If it survives what can happen to a single task, which is to be scheduled, to be asked to
stop, to wake and to have a turn, then it holds of every task wherever a session can get to.
-/

namespace ListingAtlas.Session

variable {World Note Request Inner : Type}

section

variable {behaviour : Behaviour World Note Request Inner}
  {state before after : State World Note Request Inner}

/-! ### Tokens and tasks in step -/

/-- The newest token of a key is that of its newest task, and nobody has cancelled it. -/
def Registry.InStep (registry : Registry) : Prop :=
  ∀ key, registry.tokens.get? key = (registry.tasks.get? key).map (Token.issue key)

theorem Registry.InStep.isCurrent_iff {registry : Registry} (inStep : registry.InStep)
    (token : Token) :
    registry.isCurrent token = true ↔
      registry.tasks.get? token.key = some token.generation := by
  unfold Registry.isCurrent
  rw [inStep]
  cases registry.tasks.get? token.key with
  | none => simp
  | some generation => simp [Token.issue]

theorem inStep_cancelKey (inStep : state.registry.InStep) (key : String) :
    (state.cancelKey key).registry.InStep := by
  intro other
  rw [State.tokens_cancelKey, State.tasks_cancelKey]
  by_cases same : other = key
  · rw [if_pos same, if_pos same]
    rfl
  · rw [if_neg same, if_neg same]
    exact inStep other

theorem inStep_cancelKeys (keys : List String) (inStep : state.registry.InStep) :
    (keys.foldl State.cancelKey state).registry.InStep := by
  induction keys generalizing state with
  | nil => exact inStep
  | cons key keys ih => exact ih (inStep_cancelKey inStep key)

theorem inStep_schedule (inStep : state.registry.InStep) (key : String) (request : Request) :
    (state.schedule key request).registry.InStep := by
  intro other
  rw [State.tokens_schedule, State.tasks_schedule]
  by_cases same : other = key
  · rw [if_pos same, if_pos same, same]
    rfl
  · rw [if_neg same, if_neg same]
    exact inStep other

theorem Reaches.inStep {settings : Settings} (reaches : Reaches behaviour settings state) :
    state.registry.InStep := by
  induction reaches with
  | initial world => exact fun key => rfl
  | @next state occurrence before inTurn inStep =>
      cases occurrence with
      | trigger key source request =>
          simp only [State.occur, State.trigger]
          split
          · exact inStep_schedule inStep key request
          · exact inStep
      | cancel key => exact inStep_cancelKey inStep key
      | forget key => cases inTurn
      | close => exact inStep_cancelKeys state.registry.tokens.keys inStep
      | queueClose => exact inStep
      | turn position =>
          rcases state.occur_turn_cases behaviour position with
            ⟨_found, same⟩ | ⟨_found, same⟩ | ⟨task, wake, found, _same⟩
          · rw [same]
            exact inStep
          · rw [same]
            have taken : (state.taken position).registry.InStep := inStep
            exact inStep_cancelKeys state.registry.tokens.keys taken
          · obtain ⟨new, more, turn⟩ := state.occur_turnOf behaviour found
            intro key
            rw [turn.tokens, turn.tasks]
            exact inStep key
      | wake position => cases inTurn
      | tick => exact inStep
      | outside world => exact inStep

/-- The newest task of a key, if it has not ended, is one that was triggered for it. -/
def Named (state : State World Note Request Inner) : Prop :=
  ∀ task place key, Seats state task place →
    state.registry.tasks.get? key = some task.token.generation → task.token.key = key

theorem Reaches.named {settings : Settings} (reaches : Reaches behaviour settings state) :
    Named state := by
  obtain ⟨history, rfl, _sound, registered⟩ := reaches.exists_history
  intro task place key seats newest
  exact (registered key _ newest).2 _ seats.mem_roster rfl

theorem Named.cancelKey (named : Named state) (key : String) : Named (state.cancelKey key) := by
  intro task place other seats newest
  rw [State.tasks_cancelKey] at newest
  obtain ⟨former, kept⟩ :=
    seats_supersede (seats.of_sublist (List.Sublist.refl _) (List.Sublist.refl _))
  split at newest
  · cases newest
  · exact named task former other kept newest

/-! ### Rules -/

/-- The task that stands at a place, unless it has ended. -/
def Place.task? : Place Request Inner → Option (Task Request Inner)
  | .queued task _ => some task
  | .asleep task _ => some task
  | .ended _ => none

theorem Place.task?_waiting (clock : Nat) (task : Task Request Inner) (ticks : Option Nat) :
    (Place.waiting clock task ticks).task? = some task := by
  unfold Place.waiting
  split <;> rfl

theorem Place.task?_later (clock : Nat) (place : Place Request Inner) :
    (place.later clock).task? = place.task? := by
  cases place with
  | asleep task due =>
      rw [Place.later]
      split <;> rfl
  | _ => rfl

theorem Seats.task? {task : Task Request Inner} {place : Place Request Inner}
    (seats : Seats state task place) : place.task? = some task := by
  cases seats <;> rfl

/-- A rule that what happens to a single task keeps. -/
structure Standing (behaviour : Behaviour World Note Request Inner) (settings : Settings)
    (allows : Bool → Place Request Inner → Prop) : Prop where
  scheduled : ∀ task, task.stage = .scheduled → allows true (.queued task .elapsed)
  stopped : ∀ task wake, allows true (.queued task wake) → allows false (.queued task .cancelled)
  roused : ∀ task due, allows true (.asleep task due) → allows false (.queued task .cancelled)
  woken : ∀ current clock task due, allows current (.asleep task due) →
    allows current (Place.later clock (.asleep task due))
  led : ∀ (before : State World Note Request Inner) task wake place (count : Nat),
    before.settings = settings → task.token = Token.issue task.token.key (count + 1) →
      Goes behaviour before task wake place → (∀ outcome, place ≠ .ended outcome) →
        allows (before.registry.isCurrent task.token) (.queued task wake) →
          allows (before.registry.isCurrent task.token) place

/-- Every task that has not ended stands where a rule allows it. -/
def Stands (allows : Bool → Place Request Inner → Prop)
    (state : State World Note Request Inner) : Prop :=
  ∀ task place, Seats state task place → allows (state.registry.isCurrent task.token) place

variable {settings : Settings} {allows : Bool → Place Request Inner → Prop}

theorem Stands.of_sublist (stands : Stands allows before)
    (tokens : after.registry.tokens = before.registry.tokens)
    (ready : after.ready.Sublist before.ready)
    (sleeping : after.sleeping.Sublist before.sleeping) : Stands allows after := by
  intro task place seats
  rw [isCurrent_congr (congrArg (Table.get? · task.token.key) tokens)]
  exact stands task place (seats.of_sublist ready sleeping)

theorem Standing.asked (standing : Standing behaviour settings allows) {task : Task Request Inner}
    {place : Place Request Inner} (seats : Seats state task place) (allowed : allows true place) :
    allows false (.queued task .cancelled) := by
  cases seats with
  | queued _present => exact standing.stopped task _ allowed
  | asleep _present => exact standing.roused task _ allowed

/-- The newest task of a key is asked to stop, and is no longer current. -/
theorem Standing.cancelKey (standing : Standing behaviour settings allows)
    (stands : Stands allows state) (inStep : state.registry.InStep) (named : Named state)
    (key : String) : Stands allows (state.cancelKey key) := by
  intro task place seats
  have currency : (state.cancelKey key).registry.isCurrent task.token =
      if task.token.key = key then false else state.registry.isCurrent task.token := by
    unfold Registry.isCurrent
    rw [State.tokens_cancelKey]
    by_cases same : task.token.key = key
    · rw [if_pos same, if_pos same]
    · rw [if_neg same, if_neg same]
  have stale {place : Place Request Inner} (kept : Seats state task place)
      (uncounted : state.registry.tasks.get? key ≠ some task.token.generation) :
      allows ((state.cancelKey key).registry.isCurrent task.token) place := by
    have before := stands task place kept
    rw [currency]
    by_cases same : task.token.key = key
    · have notCurrent : state.registry.isCurrent task.token = false := by
        rw [← Bool.not_eq_true, inStep.isCurrent_iff, same]
        exact uncounted
      rw [if_pos same, ← notCurrent]
      exact before
    · rw [if_neg same]
      exact before
  obtain ⟨registry, _tasks, ⟨none, superseded⟩ | ⟨generation, newest, superseded⟩⟩ :=
    state.supersede_cases key
  · have kept : Seats state task place :=
      seats.of_sublist (by rw [State.cancelKey, superseded]) (by rw [State.cancelKey, superseded])
    apply stale kept
    rw [none]
    exact fun same => by cases same
  · have moved : Seats (state.cancelTask generation) task place :=
      seats.of_sublist (by rw [State.cancelKey, superseded]; rfl)
        (by rw [State.cancelKey, superseded]; rfl)
    rcases seats_cancelTask moved with ⟨kept, other⟩ | ⟨asked, rfl, former, kept⟩
    · apply stale kept
      rw [newest, Ne, Option.some.injEq]
      exact fun same => other same.symm
    · have counts : state.registry.tasks.get? key = some task.token.generation := by
        rw [newest, asked]
      have same := named task former key kept counts
      have wasCurrent : state.registry.isCurrent task.token = true := by
        rw [inStep.isCurrent_iff, same]
        exact counts
      have before := stands task former kept
      rw [wasCurrent] at before
      rw [currency, if_pos same]
      exact standing.asked kept before

theorem Standing.cancelKeys (standing : Standing behaviour settings allows) (keys : List String)
    (stands : Stands allows state) (inStep : state.registry.InStep) (named : Named state) :
    Stands allows (keys.foldl State.cancelKey state) := by
  induction keys generalizing state with
  | nil => exact stands
  | cons key keys ih =>
      exact ih (standing.cancelKey stands inStep named key) (inStep_cancelKey inStep key)
        (named.cancelKey key)

theorem Standing.beginClosing (standing : Standing behaviour settings allows)
    (stands : Stands allows state) (inStep : state.registry.InStep) (named : Named state) :
    Stands allows state.beginClosing :=
  (standing.cancelKeys state.registry.tokens.keys stands inStep named).of_sublist rfl
    (List.Sublist.refl _) (List.Sublist.refl _)

theorem Standing.schedule (standing : Standing behaviour settings allows)
    (stands : Stands allows state) (inStep : state.registry.InStep) (named : Named state)
    (issued : ∀ entry ∈ state.roster, entry.1.generation < state.registry.nextGeneration)
    (key : String) (request : Request) : Stands allows (state.schedule key request) := by
  intro task place seats
  have older {place : Place Request Inner} (kept : Seats (state.cancelKey key) task place) :
      allows ((state.schedule key request).registry.isCurrent task.token) place := by
    have number : task.token.generation < state.registry.nextGeneration :=
      issued _ ((State.cancelKey_quiet state key).roster.mem_iff.mp kept.mem_roster)
    have same : (state.schedule key request).registry.isCurrent task.token =
        (state.cancelKey key).registry.isCurrent task.token := by
      unfold Registry.isCurrent
      rw [State.tokens_schedule, State.tokens_cancelKey]
      by_cases own : task.token.key = key
      · have different : ¬ state.registry.nextGeneration = task.token.generation := by omega
        simp [own, Token.issue, different]
      · rw [if_neg own, if_neg own]
    rw [same]
    exact standing.cancelKey stands inStep named key task place kept
  cases seats with
  | asleep present => exact older (.asleep present)
  | queued present =>
      rcases List.mem_append.mp present with kept | new
      · exact older (.queued kept)
      · rw [List.mem_singleton, Item.task.injEq] at new
        obtain ⟨rfl, rfl⟩ := new
        have sameNext := (State.supersede_quiet state key).nextGeneration
        rw [List.length_nil, Int.natCast_zero, Int.add_zero] at sameNext
        have current : (state.schedule key request).registry.isCurrent
            (Token.issue key (state.supersede key).registry.nextGeneration) = true := by
          unfold Registry.isCurrent
          rw [sameNext, State.tokens_schedule, Token.issue, if_pos rfl]
          simp
        rw [current]
        exact standing.scheduled _ rfl

theorem Standing.tick (standing : Standing behaviour settings allows)
    (stands : Stands allows state) (settled : state.ready = []) : Stands allows state.tick := by
  intro task place seats
  obtain ⟨due, kept, rfl⟩ := seats_tick settled seats
  exact standing.woken _ _ task due (stands task _ kept)

theorem Standing.turn (standing : Standing behaviour settings allows)
    (configured : before.settings = settings) (stands : Stands allows before)
    {task : Task Request Inner} {wake : Wake} {count : Nat}
    (issued : task.token = Token.issue task.token.key (count + 1))
    (mine : allows (before.registry.isCurrent task.token) (.queued task wake)) :
    Stands allows (State.runTask behaviour before task wake) := by
  intro other seat seats
  obtain ⟨new, more, turn⟩ := State.runTask_turnOf behaviour before task wake
  obtain ⟨place, goes, moved⟩ := State.runTask_moved behaviour before task wake
  rw [isCurrent_congr (congrArg (Table.get? · other.token.key) turn.tokens)]
  rcases moved.seats seats with kept | rfl
  · exact stands other seat kept
  · have own : other.token = task.token := by
      have named := goes.of
      cases seats with
      | queued _present => exact named
      | asleep _present => exact named
    rw [own]
    refine standing.led before task wake seat count configured issued goes ?_ mine
    rintro outcome rfl
    cases seats

/-- A rule that survives what happens to a single task holds in every state that can be reached. -/
theorem Standing.stands (standing : Standing behaviour settings allows)
    (reaches : Reaches behaviour settings state) : Stands allows state := by
  induction reaches with
  | initial world =>
      intro task place seats
      cases seats with
      | queued present => cases present
      | asleep present => cases present
  | @next state occurrence before inTurn stands =>
      have inStep := before.inStep
      have named := before.named
      cases occurrence with
      | trigger key source request =>
          simp only [State.occur, State.trigger]
          split
          · obtain ⟨history, rfl, sound, _registered⟩ := before.exists_history
            exact standing.schedule stands inStep named sound.issued key request
          · exact stands.of_sublist rfl (List.Sublist.refl _) (List.Sublist.refl _)
      | cancel key => exact standing.cancelKey stands inStep named key
      | forget key => cases inTurn
      | close => exact standing.beginClosing stands inStep named
      | queueClose => exact fun task place seats => stands task place seats.of_closing_queued
      | turn position =>
          rw [show position = 0 from inTurn]
          have taken : Stands allows (state.taken 0) :=
            stands.of_sublist rfl (List.eraseIdx_sublist _ _) (List.Sublist.refl _)
          rcases state.occur_turn_cases behaviour 0 with
            ⟨_found, turned⟩ | ⟨_found, turned⟩ | ⟨task, wake, found, turned⟩
          · rw [turned]
            exact stands
          · rw [turned]
            refine standing.beginClosing taken inStep fun task place key seats => ?_
            exact named task place key
              (seats.of_sublist (List.eraseIdx_sublist _ _) (List.Sublist.refl _))
          · rw [turned]
            have here : Seats state task (.queued task wake) :=
              .queued (List.mem_of_getElem? found)
            obtain ⟨count, issued⟩ := before.numbered.issued _ here.mem_roster
            have configured : (state.taken 0).settings = settings := before.configured
            exact standing.turn configured taken issued (stands task _ here)
      | wake position => cases inTurn
      | tick => exact standing.tick stands inTurn
      | outside world =>
          exact stands.of_sublist rfl (List.Sublist.refl _) (List.Sublist.refl _)

end

/-! ### Calls that nobody has cancelled -/

/-- Where a task stands that waits in its call, or is about to go on there, uncancelled. -/
inductive Waits (behaviour : Behaviour World Note Request Inner) (inner : Inner) :
    Place Request Inner → Prop
  | ready {task : Task Request Inner} {ticks : Nat}
      (attained : Attained behaviour (some ticks) inner) :
      Waits behaviour inner (.queued task .elapsed)
  | asleep {task : Task Request Inner} {ticks due : Option Nat}
      (attained : Attained behaviour ticks inner)
      (timed : ∀ stop, due = some stop → ∃ count, ticks = some count) :
      Waits behaviour inner (.asleep task due)

namespace Waits

variable {behaviour : Behaviour World Note Request Inner} {inner next : Inner}
  {task : Task Request Inner} {place : Place Request Inner} {ticks : Option Nat}

theorem attained (waits : Waits behaviour inner place) :
    ∃ ticks, Attained behaviour ticks inner := by
  cases waits with
  | ready attained => exact ⟨_, attained⟩
  | asleep attained timed => exact ⟨_, attained⟩

theorem of_attained (clock : Nat) (task : Task Request Inner)
    (attained : Attained behaviour ticks inner) :
    Waits behaviour inner (.waiting clock task ticks) := by
  by_cases zero : ticks = some 0
  · rw [zero, Place.waiting_zero]
    rw [zero] at attained
    exact .ready attained
  · rw [Place.waiting, if_neg zero]
    refine .asleep attained ?_
    intro stop timed
    obtain ⟨count, counted, _same⟩ := Option.map_eq_some_iff.mp timed
    exact ⟨count, counted⟩

theorem later {due : Option Nat} (clock : Nat) (waits : Waits behaviour inner (.asleep task due)) :
    Waits behaviour inner (Place.later clock (.asleep task due)) := by
  rw [Place.later]
  split
  · rename_i woken
    cases due with
    | none => cases woken
    | some stop =>
        cases waits with
        | asleep attained timed =>
            obtain ⟨count, rfl⟩ := timed stop rfl
            exact .ready attained
  · exact waits

theorem resume {wake : Wake} (waits : Waits behaviour inner (.queued task wake)) {world : World}
    (move : (behaviour.resume world inner wake).move = .wait ticks next) (clock : Nat)
    (other : Task Request Inner) : Waits behaviour next (.waiting clock other ticks) := by
  cases waits with
  | ready attained => exact .of_attained clock other (.resume world attained move)

end Waits

end ListingAtlas.Session
