import ListingAtlas.Proofs.Session.Reachable
import ListingAtlas.Proofs.Session.Stillness
import ListingAtlas.Proofs.Session.Unwinding

/-!
Where tasks stand that have not ended, and what can be said of them there: whether a call that does
not count any more for its key is sure to end by a deadline, and how far the task has got that counts.
-/

namespace ListingAtlas.Session

variable {World Note Request Inner : Type}

/-! ### Queues and sleepers -/

namespace State

variable (state : State World Note Request Inner)

theorem ready_cancelTask (generation : Int) :
    (state.cancelTask generation).ready = state.ready.map (Item.cancelled generation) ++
      (state.sleeping.filter fun sleeper => sleeper.task.token.generation == generation).map
        fun sleeper => .task sleeper.task .cancelled := by
  simp only [cancelTask, List.partition_eq_filter_filter]

theorem sleeping_cancelTask (generation : Int) :
    (state.cancelTask generation).sleeping =
      state.sleeping.filter fun sleeper => !(sleeper.task.token.generation == generation) := by
  simp only [cancelTask, List.partition_eq_filter_filter]
  rfl

theorem ready_tick (settled : state.ready = []) :
    state.tick.ready = (state.sleeping.filter (isDue (state.clock + 1))).map
      fun sleeper => .task sleeper.task .elapsed := by
  simp only [tick, List.partition_eq_filter_filter, settled, List.nil_append]

theorem sleeping_tick :
    state.tick.sleeping = state.sleeping.filter fun sleeper => !isDue (state.clock + 1) sleeper := by
  simp only [tick, List.partition_eq_filter_filter]
  rfl

end State

/-! ### Seats -/

/-- Where a task stands that has not ended. -/
inductive Seats (state : State World Note Request Inner) :
    Task Request Inner → Place Request Inner → Prop
  | queued {task : Task Request Inner} {wake : Wake} (present : .task task wake ∈ state.ready) :
      Seats state task (.queued task wake)
  | asleep {task : Task Request Inner} {due : Option Nat} (present : ⟨task, due⟩ ∈ state.sleeping) :
      Seats state task (.asleep task due)

/-- The task of a token is the newest of its key, and nobody has asked it to stop. -/
def State.Counts (state : State World Note Request Inner) (token : Token) : Prop :=
  state.registry.tasks.get? token.key = some token.generation

section

variable {state before after : State World Note Request Inner} {task : Task Request Inner}
  {place : Place Request Inner}

theorem Seats.mem_roster (seats : Seats state task place) :
    (task.token, task.stage.phase) ∈ state.roster := by
  cases seats with
  | queued present => exact State.mem_roster_ready present
  | asleep present => exact State.mem_roster_sleeping present

theorem Seats.of_sublist (seats : Seats after task place)
    (ready : after.ready.Sublist before.ready)
    (sleeping : after.sleeping.Sublist before.sleeping) : Seats before task place := by
  cases seats with
  | queued present => exact .queued (ready.subset present)
  | asleep present => exact .asleep (sleeping.subset present)

theorem Seats.of_closing_queued
    (seats : Seats { before with ready := before.ready ++ [.closing] } task place) :
    Seats before task place := by
  cases seats with
  | asleep present => exact .asleep present
  | queued present =>
      rcases List.mem_append.mp present with kept | closing
      · exact .queued kept
      · cases List.mem_singleton.mp closing

theorem Moved.seats {token : Token} {other : Task Request Inner} {seat : Place Request Inner}
    (moved : Moved before after token place) (seats : Seats after other seat) :
    Seats before other seat ∨ seat = place := by
  cases seats with
  | queued present =>
      rw [moved.ready, List.mem_append] at present
      rcases present with kept | put
      · exact Or.inl (.queued kept)
      · cases place with
        | queued member wake =>
            rw [Place.items, List.mem_singleton, Item.task.injEq] at put
            rw [put.1, put.2]
            exact Or.inr rfl
        | _ => cases put
  | asleep present =>
      rw [moved.sleeping, List.mem_append] at present
      rcases present with kept | put
      · exact Or.inl (.asleep kept)
      · cases place with
        | asleep member due =>
            rw [Place.sleepers, List.mem_singleton, Sleeper.mk.injEq] at put
            rw [put.1, put.2]
            exact Or.inr rfl
        | _ => cases put

theorem seats_cancelTask {generation : Int}
    (seats : Seats (state.cancelTask generation) task place) :
    (Seats state task place ∧ task.token.generation ≠ generation) ∨
      task.token.generation = generation ∧ place = .queued task .cancelled ∧
        ∃ former, Seats state task former := by
  cases seats with
  | queued present =>
      rw [State.ready_cancelTask] at present
      rcases List.mem_append.mp present with ready | woken
      · obtain ⟨item, kept, made⟩ := List.mem_map.mp ready
        cases item with
        | closing => cases made
        | task member wake =>
            simp only [Item.cancelled, Item.task.injEq] at made
            obtain ⟨rfl, rfl⟩ := made
            by_cases asked : member.token.generation = generation
            · rw [if_pos (beq_iff_eq.mpr asked)]
              exact Or.inr ⟨asked, rfl, _, .queued kept⟩
            · rw [if_neg (fun same => asked (beq_iff_eq.mp same))]
              exact Or.inl ⟨.queued kept, asked⟩
      · obtain ⟨sleeper, kept, made⟩ := List.mem_map.mp woken
        rw [List.mem_filter, beq_iff_eq] at kept
        rw [Item.task.injEq] at made
        obtain ⟨rfl, rfl⟩ := made
        exact Or.inr ⟨kept.2, rfl, _, .asleep kept.1⟩
  | asleep present =>
      rw [State.sleeping_cancelTask, List.mem_filter] at present
      exact Or.inl ⟨.asleep present.1, by simpa using present.2⟩

theorem seats_tick (settled : state.ready = []) (seats : Seats state.tick task place) :
    ∃ due, Seats state task (.asleep task due) ∧
      place = Place.later (state.clock + 1) (.asleep task due) := by
  cases seats with
  | queued present =>
      rw [state.ready_tick settled] at present
      obtain ⟨sleeper, kept, made⟩ := List.mem_map.mp present
      rw [List.mem_filter] at kept
      rw [Item.task.injEq] at made
      obtain ⟨rfl, rfl⟩ := made
      exact ⟨_, .asleep kept.1, by rw [Place.later, if_pos kept.2]⟩
  | @asleep due present =>
      rw [state.sleeping_tick, List.mem_filter] at present
      have early : ¬ State.isDue (state.clock + 1) ⟨task, due⟩ = true := by simpa using present.2
      exact ⟨_, .asleep present.1, by rw [Place.later, if_neg early]⟩

end

/-! ### Calls that leave -/

/-- Where a call that has been told to stop is sure to end by a deadline. -/
inductive Leaving (behaviour : Behaviour World Note Request Inner) (clock deadline : Nat) :
    Place Request Inner → Prop
  | queued {task : Task Request Inner} {inner : Inner} (stage : task.stage = .correlating inner)
      (early : clock ≤ deadline) (inTime : ¬ Overstays behaviour (deadline - clock) inner) :
      Leaving behaviour clock deadline (.queued task .elapsed)
  | asleep {task : Task Request Inner} {inner : Inner} {due : Nat}
      (stage : task.stage = .correlating inner) (later : clock < due) (early : due ≤ deadline)
      (inTime : ¬ Overstays behaviour (deadline - due) inner) :
      Leaving behaviour clock deadline (.asleep task (some due))

/-- Where a task stands that does not count any more. -/
inductive Dismissed (behaviour : Behaviour World Note Request Inner) (debounce clock : Nat) :
    Place Request Inner → Prop
  | asked {task : Task Request Inner}
      (inTime : ∀ inner, task.stage = .correlating inner → ¬ Overruns behaviour debounce inner) :
      Dismissed behaviour debounce clock (.queued task .cancelled)
  | leaving {place : Place Request Inner}
      (leaving : Leaving behaviour clock (clock + debounce) place) :
      Dismissed behaviour debounce clock place

/-- Where a task stands that counts. -/
inductive Underway (behaviour : Behaviour World Note Request Inner) (clock : Nat) :
    Place Request Inner → Prop
  | scheduled {task : Task Request Inner} (stage : task.stage = .scheduled) :
      Underway behaviour clock (.queued task .elapsed)
  | debouncing {task : Task Request Inner} {due : Nat} (stage : task.stage = .debouncing)
      (later : clock < due) : Underway behaviour clock (.asleep task (some due))
  | ripe {task : Task Request Inner} (stage : task.stage = .debouncing) :
      Underway behaviour clock (.queued task .elapsed)
  | ready {task : Task Request Inner} {inner : Inner} {ticks : Nat}
      (stage : task.stage = .correlating inner) (attained : Attained behaviour (some ticks) inner) :
      Underway behaviour clock (.queued task .elapsed)
  | waiting {task : Task Request Inner} {inner : Inner} {ticks due : Option Nat}
      (stage : task.stage = .correlating inner) (attained : Attained behaviour ticks inner)
      (timed : ∀ stop, due = some stop → clock < stop ∧ ∃ count, ticks = some count) :
      Underway behaviour clock (.asleep task due)

/-- When the call begins of a task that has been debounced. -/
def Place.opening? (clock : Nat) : Place Request Inner → Option Nat
  | .queued task _ => if task.stage.isDebouncing then some clock else none
  | .asleep task due => if task.stage.isDebouncing then due else none
  | .ended _ => none

theorem Stage.isDebouncing_iff {stage : Stage Inner} :
    stage.isDebouncing = true ↔ stage = .debouncing := by
  cases stage <;> simp [isDebouncing]

section

variable {behaviour : Behaviour World Note Request Inner} {clock deadline : Nat}
  {task : Task Request Inner} {place : Place Request Inner}

theorem Leaving.mono {later : Nat} (leaving : Leaving behaviour clock deadline place)
    (more : deadline ≤ later) : Leaving behaviour clock later place := by
  cases leaving with
  | queued stage early inTime =>
      refine .queued stage (Nat.le_trans early more) fun overstays => inTime (overstays.mono ?_)
      exact Nat.sub_le_sub_right more _
  | asleep stage awake early inTime =>
      refine .asleep stage awake (Nat.le_trans early more) fun overstays =>
        inTime (overstays.mono ?_)
      exact Nat.sub_le_sub_right more _

/-- A call that leaves waits no longer than it may. -/
theorem Leaving.resume {inner next : Inner} {world : World} {ticks : Option Nat}
    (leaving : Leaving behaviour clock deadline (.queued task .elapsed))
    (stage : task.stage = .correlating inner)
    (move : (behaviour.resume world inner .elapsed).move = .wait ticks next) :
    (∃ count, ticks = some count ∧ clock + count < deadline) ∧
      Leaving behaviour clock deadline
        (.waiting clock { task with stage := .correlating next } ticks) := by
  cases leaving with
  | queued same early inTime =>
      rw [stage, Stage.correlating.injEq] at same
      rw [← same] at inTime
      obtain ⟨count, rfl, less, rest⟩ := wait_of_not_overstays inTime move
      refine ⟨⟨count, rfl, by omega⟩, ?_⟩
      cases count with
      | zero =>
          rw [Place.waiting_zero]
          exact .queued rfl early rest
      | succ count =>
          rw [Place.waiting_pos clock _ (Nat.succ_pos count)]
          refine .asleep rfl (by omega) (by omega) ?_
          rw [← Nat.sub_sub]
          exact rest

/-- A call that is cancelled in time is sure to end before a debounce is over that begins now. -/
theorem Leaving.of_cancelled {debounce : Nat} {inner next : Inner} {world : World}
    {ticks : Option Nat} (inTime : ¬ Overruns behaviour debounce inner)
    (move : (behaviour.resume world inner .cancelled).move = .wait ticks next) :
    Leaving behaviour clock (clock + debounce)
      (.waiting clock { task with stage := .correlating next } ticks) := by
  obtain ⟨count, rfl, less, rest⟩ := wait_of_not_overruns inTime move
  cases count with
  | zero =>
      rw [Place.waiting_zero]
      refine .queued rfl (by omega) ?_
      rw [Nat.add_sub_cancel_left]
      exact rest
  | succ count =>
      rw [Place.waiting_pos clock _ (Nat.succ_pos count)]
      refine .asleep rfl (by omega) (by omega) ?_
      rw [Nat.add_sub_add_left]
      exact rest

theorem Underway.of_attained {inner : Inner} {ticks : Option Nat}
    (attained : Attained behaviour ticks inner) :
    Underway behaviour clock (.waiting clock { task with stage := .correlating inner } ticks) := by
  by_cases zero : ticks = some 0
  · rw [zero, Place.waiting_zero]
    rw [zero] at attained
    exact .ready rfl attained
  · rw [Place.waiting, if_neg zero]
    refine .waiting rfl attained ?_
    intro stop timed
    obtain ⟨count, rfl, rfl⟩ := Option.map_eq_some_iff.mp timed
    have lasting : count ≠ 0 := fun none => zero (congrArg some none)
    exact ⟨by omega, count, rfl⟩

theorem Underway.elapsed {wake : Wake} {inner : Inner}
    (underway : Underway behaviour clock (.queued task wake))
    (stage : task.stage = .correlating inner) :
    wake = .elapsed ∧ ∃ ticks, Attained behaviour (some ticks) inner := by
  cases underway with
  | scheduled other =>
      rw [other] at stage
      cases stage
  | ripe other =>
      rw [other] at stage
      cases stage
  | ready same attained =>
      rw [same, Stage.correlating.injEq] at stage
      rw [stage] at attained
      exact ⟨rfl, _, attained⟩

theorem Underway.attained {state : State World Note Request Inner} {inner : Inner}
    (underway : Underway behaviour clock place) (seats : Seats state task place)
    (stage : task.stage = .correlating inner) : ∃ ticks, Attained behaviour ticks inner := by
  cases seats with
  | queued present =>
      obtain ⟨_elapsed, ticks, attained⟩ := underway.elapsed stage
      exact ⟨some ticks, attained⟩
  | asleep present =>
      cases underway with
      | debouncing other =>
          rw [other] at stage
          cases stage
      | @waiting _ _ ticks _ same attained =>
          rw [same, Stage.correlating.injEq] at stage
          rw [stage] at attained
          exact ⟨ticks, attained⟩

/-! ### Time -/

theorem Place.later_some (clock : Nat) (task : Task Request Inner) (due : Nat) :
    Place.later clock (.asleep task (some due)) =
      if due ≤ clock then .queued task .elapsed else .asleep task (some due) := by
  simp only [later, State.isDue, decide_eq_true_eq]

theorem Leaving.later {due : Option Nat}
    (leaving : Leaving behaviour clock deadline (.asleep task due)) :
    Leaving behaviour (clock + 1) deadline (Place.later (clock + 1) (.asleep task due)) := by
  cases leaving with
  | @asleep _ inner due stage awake early inTime =>
      rw [Place.later_some]
      by_cases woken : due ≤ clock + 1
      · have now : due = clock + 1 := by omega
        rw [if_pos woken]
        rw [now] at early inTime
        exact .queued stage early inTime
      · rw [if_neg woken]
        exact .asleep stage (by omega) early inTime

theorem Underway.later {due : Option Nat} (underway : Underway behaviour clock (.asleep task due)) :
    Underway behaviour (clock + 1) (Place.later (clock + 1) (.asleep task due)) := by
  cases underway with
  | @debouncing _ due stage awake =>
      rw [Place.later_some]
      by_cases woken : due ≤ clock + 1
      · rw [if_pos woken]
        exact .ripe stage
      · rw [if_neg woken]
        exact .debouncing stage (by omega)
  | @waiting _ inner ticks due stage attained timed =>
      cases due with
      | none => exact .waiting stage attained (by simp)
      | some due =>
          obtain ⟨awake, count, rfl⟩ := timed due rfl
          rw [Place.later_some]
          by_cases woken : due ≤ clock + 1
          · rw [if_pos woken]
            exact .ready stage attained
          · rw [if_neg woken]
            refine .waiting stage attained ?_
            intro stop same
            rw [Option.some.injEq] at same
            exact ⟨by omega, count, rfl⟩

/-- Time does not put off the call of a task that counts. -/
theorem Underway.opening?_later {due : Option Nat} {opening : Nat}
    (underway : Underway behaviour clock (.asleep task due))
    (opens : (Place.later (clock + 1) (.asleep task due)).opening? (clock + 1) = some opening) :
    Place.opening? clock (.asleep task due) = some opening := by
  cases underway with
  | @debouncing _ due stage awake =>
      have ripe := Stage.isDebouncing_iff.mpr stage
      rw [Place.later_some] at opens
      by_cases woken : due ≤ clock + 1
      · have now : due = clock + 1 := by omega
        rw [if_pos woken, Place.opening?, if_pos ripe] at opens
        rw [Place.opening?, if_pos ripe, now]
        exact opens
      · rw [if_neg woken] at opens
        exact opens
  | @waiting _ inner ticks due stage attained timed =>
      have begun : ¬ task.stage.isDebouncing = true := by
        rw [stage]
        exact Bool.false_ne_true
      rw [Place.later] at opens
      split at opens
      · rw [Place.opening?, if_neg begun] at opens
        cases opens
      · rw [Place.opening?, if_neg begun] at opens
        cases opens

end

end ListingAtlas.Session
