import ListingAtlas.Proofs.Session.Places

/-!
Turns come to an end. Each turn takes from the work that is ready, so that a session that settles has
nothing ready left, and everything that has not ended sleeps.
-/

namespace ListingAtlas.Session

variable {World Note Request Inner : Type}

namespace State

/-! ### The weight of a queue -/

def queueWeight (correlator : Correlator World Note Request Inner)
    (items : List (Item Request Inner)) : Nat :=
  items.foldr (fun item weight => itemWeight correlator item + weight) 0

theorem queueWeight_append (correlator : Correlator World Note Request Inner)
    (first second : List (Item Request Inner)) :
    queueWeight correlator (first ++ second) =
      queueWeight correlator first + queueWeight correlator second := by
  induction first with
  | nil => exact (Nat.zero_add _).symm
  | cons item rest ih =>
      change itemWeight correlator item + queueWeight correlator (rest ++ second) =
        itemWeight correlator item + queueWeight correlator rest + queueWeight correlator second
      rw [ih, Nat.add_assoc]

theorem stageWeight_pos (correlator : Correlator World Note Request Inner)
    (stage : Stage Inner) : 0 < stageWeight correlator stage := by
  cases stage <;> simp [stageWeight]

theorem stageWeight_le (correlator : Correlator World Note Request Inner)
    (stage : Stage Inner) : stageWeight correlator stage ≤ correlator.patience + 3 := by
  cases stage with
  | scheduled => exact Nat.le_refl _
  | debouncing => simp [stageWeight]
  | correlating inner =>
      have bound := correlator.pauses_le inner
      simp only [stageWeight]
      omega

theorem queueWeight_cancelled (correlator : Correlator World Note Request Inner)
    (generation : Int) (items : List (Item Request Inner)) :
    queueWeight correlator (items.map (Item.cancelled generation)) =
      queueWeight correlator items := by
  induction items with
  | nil => rfl
  | cons item rest ih =>
      have same : itemWeight correlator (item.cancelled generation) =
          itemWeight correlator item := by cases item <;> rfl
      change itemWeight correlator (item.cancelled generation) +
        queueWeight correlator (rest.map (Item.cancelled generation)) = _
      rw [same, ih]
      rfl

theorem queueWeight_woken (correlator : Correlator World Note Request Inner) (wake : Wake)
    (sleepers : List (Sleeper Request Inner)) :
    queueWeight correlator (sleepers.map fun sleeper => Item.task sleeper.task wake) ≤
      sleepers.length * (correlator.patience + 3) := by
  induction sleepers with
  | nil => exact Nat.zero_le _
  | cons sleeper rest ih =>
      have bound := stageWeight_le correlator sleeper.task.stage
      change stageWeight correlator sleeper.task.stage +
        queueWeight correlator (rest.map fun sleeper => Item.task sleeper.task wake) ≤ _
      rw [List.length_cons, Nat.succ_mul]
      omega

theorem closings_woken (wake : Wake) (sleepers : List (Sleeper Request Inner)) :
    (sleepers.map fun sleeper => Item.task sleeper.task wake).countP isClosing = 0 := by
  rw [List.countP_eq_zero]
  intro item member
  obtain ⟨sleeper, _present, rfl⟩ := List.mem_map.mp member
  simp [isClosing]

/-! ### Waking -/

/-- Tasks are woken, and nothing comes or goes. -/
structure Woken (correlator : Correlator World Note Request Inner)
    (before after : State World Note Request Inner) : Prop where
  size : after.ready.length + after.sleeping.length =
    before.ready.length + before.sleeping.length
  closings : after.ready.countP isClosing = before.ready.countP isClosing
  weight : queueWeight correlator after.ready + after.sleeping.length * (correlator.patience + 3) ≤
    queueWeight correlator before.ready + before.sleeping.length * (correlator.patience + 3)

namespace Woken

variable {correlator : Correlator World Note Request Inner}

theorem refl (state : State World Note Request Inner) : Woken correlator state state :=
  ⟨rfl, rfl, Nat.le_refl _⟩

theorem trans {before between after : State World Note Request Inner}
    (first : Woken correlator before between) (second : Woken correlator between after) :
    Woken correlator before after :=
  ⟨second.size.trans first.size, second.closings.trans first.closings,
    Nat.le_trans second.weight first.weight⟩

end Woken

variable (correlator : Correlator World Note Request Inner)

theorem cancelTask_woken (state : State World Note Request Inner) (generation : Int) :
    Woken correlator state (state.cancelTask generation) := by
  have split := (partition_perm
    (fun sleeper => sleeper.task.token.generation == generation) state.sleeping).length_eq
  rw [List.length_append] at split
  have sameClosing : (fun item : Item Request Inner => isClosing (item.cancelled generation)) =
      isClosing := by
    funext item
    cases item <;> rfl
  refine ⟨?_, ?_, ?_⟩
  · simp only [cancelTask, List.length_append, List.length_map]
    omega
  · simp only [cancelTask, List.countP_append, closings_woken, Nat.add_zero]
    rw [List.countP_map, Function.comp_def, sameClosing]
  · have woken := queueWeight_woken correlator .cancelled (state.sleeping.partition
      fun sleeper => sleeper.task.token.generation == generation).1
    simp only [cancelTask, queueWeight_append, queueWeight_cancelled]
    rw [← split, Nat.add_mul]
    omega

theorem supersede_woken (state : State World Note Request Inner) (key : String) :
    Woken correlator state (state.supersede key) := by
  obtain ⟨registry, _tasks, ⟨_none, same⟩ | ⟨generation, _some, same⟩⟩ := supersede_cases state key
  · rw [same]
    exact ⟨rfl, rfl, Nat.le_refl _⟩
  · rw [same]
    have woken := cancelTask_woken correlator { state with registry } generation
    exact ⟨woken.size, woken.closings, woken.weight⟩

theorem cancelKeys_woken (keys : List String) (state : State World Note Request Inner) :
    Woken correlator state (keys.foldl cancelKey state) := by
  induction keys generalizing state with
  | nil => exact Woken.refl state
  | cons key keys ih =>
      have superseded := supersede_woken correlator state key
      have cancelled : Woken correlator state (state.cancelKey key) :=
        ⟨superseded.size, superseded.closings, superseded.weight⟩
      exact cancelled.trans (ih _)

/-! ### Every turn takes work away -/

theorem workload_eq (state : State World Note Request Inner) :
    workload correlator state = queueWeight correlator state.ready +
      state.ready.countP isClosing *
        (1 + (state.ready.length + state.sleeping.length) * (correlator.patience + 3)) := rfl

theorem led_weight {clock : Nat} {task : Task Request Inner}
    {progress : Progress World Note Inner} {place : Place Request Inner} {bound : Nat}
    (led : Led clock task progress.move place) (positive : 0 < bound)
    (less : ∀ next, progress.move = .wait (some 0) next → correlator.pauses next + 1 < bound) :
    queueWeight correlator place.items < bound := by
  cases move : progress.move with
  | wait ticks inner =>
      rw [move] at led
      cases led
      by_cases zero : ticks = some 0
      · rw [zero, Place.waiting_zero]
        rw [zero] at move
        exact less inner move
      · rw [Place.waiting, if_neg zero]
        exact positive
  | finish ending =>
      rw [move] at led
      cases led
      exact positive

/-- A task that goes on is lighter than it was. -/
theorem goes_weight {state : State World Note Request Inner} {task : Task Request Inner}
    {wake : Wake} {place : Place Request Inner}
    (goes : Goes correlator.toBehaviour state task wake place) :
    queueWeight correlator place.items < stageWeight correlator task.stage := by
  cases goes with
  | debounce ticks stage elapsed agreed =>
      rw [stage, Place.waiting]
      split
      · simp [Place.items, queueWeight, itemWeight, stageWeight]
      · simp [Place.items, queueWeight, stageWeight]
  | start _place stage elapsed current led =>
      apply led_weight correlator led (stageWeight_pos _ _)
      intro next _waits
      have bound := correlator.pauses_le next
      rw [stage]
      simp only [stageWeight]
      omega
  | resume _place inner stage led =>
      apply led_weight correlator led (stageWeight_pos _ _)
      intro next waits
      have less := correlator.pauses_lt _ _ _ _ waits
      rw [stage]
      simp only [stageWeight]
      omega
  | drop outcome early => exact stageWeight_pos _ _

theorem moved_lengths {before after : State World Note Request Inner} {token : Token}
    {place : Place Request Inner} (moved : Moved before after token place) :
    after.ready.length + after.sleeping.length ≤
      before.ready.length + before.sleeping.length + 1 ∧
    after.ready.countP isClosing = before.ready.countP isClosing := by
  rw [moved.ready, moved.sleeping]
  cases place with
  | queued task wake => simp [Place.items, Place.sleepers, isClosing]; omega
  | asleep task due => simp [Place.items, Place.sleepers]; omega
  | ended outcome => simp [Place.items, Place.sleepers]

theorem runTask_workload (rest : State World Note Request Inner) (task : Task Request Inner)
    (wake : Wake) :
    workload correlator (runTask correlator.toBehaviour rest task wake) <
      workload correlator { rest with ready := .task task wake :: rest.ready } := by
  obtain ⟨place, goes, moved⟩ := runTask_moved correlator.toBehaviour rest task wake
  have lighter := goes_weight correlator goes
  obtain ⟨size, closings⟩ := moved_lengths moved
  have spared := Nat.mul_le_mul_left (rest.ready.countP isClosing)
    (Nat.add_le_add_left (Nat.mul_le_mul_right (correlator.patience + 3) size) 1)
  have queue : queueWeight correlator (runTask correlator.toBehaviour rest task wake).ready =
      queueWeight correlator rest.ready + queueWeight correlator place.items := by
    rw [moved.ready, queueWeight_append]
  have before : workload correlator { rest with ready := .task task wake :: rest.ready } =
      stageWeight correlator task.stage + queueWeight correlator rest.ready +
        rest.ready.countP isClosing *
          (1 + (rest.ready.length + rest.sleeping.length + 1) * (correlator.patience + 3)) := by
    rw [workload_eq, List.length_cons, Nat.add_right_comm rest.ready.length 1]
    rfl
  rw [before, workload_eq, queue, closings]
  omega

/-- The turn of a call to close: every sleeper may have become ready, but there is one call less. -/
theorem beginClosing_workload (rest : State World Note Request Inner) :
    workload correlator rest.beginClosing <
      workload correlator { rest with ready := .closing :: rest.ready } := by
  have cancelled : Woken correlator rest rest.beginClosing := by
    have woken := cancelKeys_woken correlator rest.registry.tokens.keys rest
    exact ⟨woken.size, woken.closings, woken.weight⟩
  have before : workload correlator { rest with ready := .closing :: rest.ready } =
      queueWeight correlator rest.ready + (rest.ready.countP isClosing + 1) *
        (1 + (rest.ready.length + rest.sleeping.length) * (correlator.patience + 3) +
          (correlator.patience + 3)) := by
    have count : (Item.closing :: rest.ready).countP isClosing =
        rest.ready.countP isClosing + 1 := List.countP_cons_of_pos rfl
    have weight : queueWeight correlator (Item.closing :: rest.ready) =
        queueWeight correlator rest.ready := Nat.zero_add _
    have size : (rest.ready.length + rest.sleeping.length + 1) * (correlator.patience + 3) =
        (rest.ready.length + rest.sleeping.length) * (correlator.patience + 3) +
          (correlator.patience + 3) := Nat.succ_mul _ _
    rw [workload_eq, weight, count, List.length_cons, Nat.add_right_comm rest.ready.length 1, size,
      Nat.add_assoc 1]
  have weight := cancelled.weight
  have few := Nat.mul_le_mul_right (correlator.patience + 3)
    (Nat.le_add_left rest.sleeping.length rest.ready.length)
  have spared := Nat.mul_le_mul_left (rest.ready.countP isClosing)
    (Nat.le_add_right (1 + (rest.ready.length + rest.sleeping.length) * (correlator.patience + 3))
      (correlator.patience + 3))
  rw [before, workload_eq, cancelled.closings, cancelled.size, Nat.succ_mul]
  omega

theorem turn_workload {state : State World Note Request Inner} (some : state.ready ≠ []) :
    workload correlator (turn correlator.toBehaviour state) < workload correlator state := by
  cases queue : state.ready with
  | nil => exact absurd queue some
  | cons item rest =>
      have whole : state = { { state with ready := rest } with ready := item :: rest } := by
        rw [← queue]
      unfold turn
      rw [queue]
      rw [whole]
      cases item with
      | task task wake => exact runTask_workload correlator { state with ready := rest } task wake
      | closing => exact beginClosing_workload correlator { state with ready := rest }

/-! ### Settled sessions -/

theorem turn_of_ready_nil {behaviour : Behaviour World Note Request Inner}
    {state : State World Note Request Inner} (settled : state.ready = []) :
    turn behaviour state = state := by
  unfold turn
  rw [settled]

theorem turns_ready {count : Nat} {state : State World Note Request Inner}
    (enough : workload correlator state ≤ count) :
    (turns correlator.toBehaviour count state).ready = [] := by
  induction count generalizing state with
  | zero =>
      by_cases settled : state.ready = []
      · exact settled
      · have less := turn_workload correlator settled
        omega
  | succ count ih =>
      by_cases settled : state.ready = []
      · rw [turns, turn_of_ready_nil settled]
        apply ih
        have nothing : workload correlator state = 0 := by
          rw [workload_eq, settled, List.countP_nil, Nat.zero_mul]
          rfl
        omega
      · have less := turn_workload correlator settled
        rw [turns]
        apply ih
        omega

/-- A session that has settled has nothing ready left. -/
theorem settle_ready (state : State World Note Request Inner) :
    (state.settle correlator).ready = [] :=
  turns_ready correlator (Nat.le_refl _)

end State

end ListingAtlas.Session
