import ListingAtlas.Proofs.Session.Head

/-!
At most one call is in flight per key, if each call that is cancelled ends in time or if no call ever
begins.
-/

namespace ListingAtlas.Session

variable {World Note Request Inner : Type}

section

variable {behaviour : Behaviour World Note Request Inner}
  {state before after : State World Note Request Inner}

theorem State.exists_seats {entry : Token × Phase} (member : entry ∈ state.roster)
    (working : entry.2 = .working) :
    ∃ task place, Seats state task place ∧ entry = (task.token, task.stage.phase) := by
  unfold roster at member
  rw [List.mem_append, List.mem_append] at member
  rcases member with (queued | asleep) | ended
  · obtain ⟨item, present, made⟩ := List.mem_filterMap.mp queued
    cases item with
    | closing => cases made
    | task task wake => exact ⟨task, _, .queued present, (Option.some.inj made).symm⟩
  · obtain ⟨sleeper, present, rfl⟩ := List.mem_map.mp asleep
    exact ⟨sleeper.task, _, .asleep present, rfl⟩
  · obtain ⟨finished, _present, rfl⟩ := List.mem_map.mp ended
    cases working

theorem State.inFlight_eq_zero {key : String}
    (nobody : ∀ task place, Seats state task place → task.stage.phase = .working →
      task.token.key ≠ key) : state.inFlight key = 0 := by
  unfold inFlight
  rw [List.countP_eq_zero]
  intro entry member counted
  rw [Bool.and_eq_true, beq_iff_eq, beq_iff_eq] at counted
  obtain ⟨task, place, seats, rfl⟩ := exists_seats member counted.2
  exact nobody task place seats counted.2 counted.1

/-- What begins a call is the turn of a task whose debounce is over. -/
theorem State.begins_cases (state : State World Note Request Inner) (key : String)
    (occurrence : Occurrence World Request) :
    state.begins key occurrence = 0 ∨
      state.begins key occurrence = 1 ∧ ∃ position task, occurrence = .turn position ∧
        state.ready[position]? = some (.task task .elapsed) ∧ task.token.key = key ∧
          task.stage = .debouncing ∧ state.registry.isCurrent task.token = true := by
  unfold begins
  split
  · rename_i position
    split
    · rename_i task found
      split
      · rename_i ripe
        exact Or.inr ⟨rfl, position, task, rfl, found, ripe.1,
          Stage.isDebouncing_iff.mp ripe.2.1, ripe.2.2⟩
      · exact Or.inl rfl
    · exact Or.inl rfl
  · exact Or.inl rfl

/-! ### Calls that end in time -/

section

variable {debounce : Nat}

/-- Calls in flight for one key are all the same call. -/
theorem Apart.inFlight_le_one (apart : Apart behaviour debounce state)
    (distinct : (state.roster.map fun entry => entry.1.generation).Nodup) (key : String) :
    state.inFlight key ≤ 1 := by
  let counted : Token × Phase → Bool := fun entry => entry.1.key == key && entry.2 == .working
  have kept : ((state.roster.filter counted).map fun entry => entry.1.generation).Nodup :=
    distinct.sublist (List.filter_sublist.map _)
  have among (entry : Token × Phase) (member : entry ∈ state.roster.filter counted) :
      entry.1.key = key ∧ ∃ task place, Seats state task place ∧
        task.stage.phase = .working ∧ task.token = entry.1 := by
    obtain ⟨present, here⟩ := List.mem_filter.mp member
    have both := Bool.and_eq_true_iff.mp here
    have working : entry.2 = .working := beq_iff_eq.mp both.2
    obtain ⟨task, place, seats, rfl⟩ := State.exists_seats present working
    exact ⟨beq_iff_eq.mp both.1, task, place, seats, working, rfl⟩
  change state.roster.countP counted ≤ 1
  rw [List.countP_eq_length_filter]
  cases calls : state.roster.filter counted with
  | nil => exact Nat.zero_le 1
  | cons first others =>
      cases others with
      | nil => exact Nat.le_refl 1
      | cons second others =>
          rw [calls] at kept among
          obtain ⟨sameKey, task, one, seats, working, same⟩ := among first List.mem_cons_self
          obtain ⟨sameKey', task', two, seats', working', same'⟩ :=
            among second (List.mem_cons_of_mem _ List.mem_cons_self)
          have generations := apart.single task task' one two seats seats' working working'
            (by rw [same, sameKey, same', sameKey'])
          rw [same, same'] at generations
          rw [List.map_cons, List.map_cons, List.nodup_cons, generations] at kept
          exact absurd List.mem_cons_self kept.1

/-- While a call begins, no other of its key is in flight. -/
theorem Apart.inFlight_of_begins (apart : Apart behaviour debounce state)
    (distinct : (state.roster.map fun entry => entry.1.generation).Nodup)
    {task : Task Request Inner} (found : state.ready[0]? = some (.task task .elapsed))
    (stage : task.stage = .debouncing) : state.inFlight task.token.key = 0 := by
  have head := apart.head distinct found
  have counts := head.counts rfl fun inner other => by
    rw [stage] at other
    cases other
  apply State.inFlight_eq_zero
  intro other place seats working
  have idle : task.stage.phase ≠ .working := by
    rw [stage]
    intro working
    cases working
  rcases (State.mem_roster_taken found).mp seats.mem_roster with own | rest
  · rw [Prod.mk.injEq] at own
    rw [own.2] at working
    exact absurd working idle
  · obtain ⟨call, seat, taken, same⟩ := State.exists_seats rest working
    rw [Prod.mk.injEq] at same
    rw [same.1]
    rw [same.2] at working
    exact head.clear counts stage taken working

/-- If each call that is cancelled ends in time, at most one is in flight per key. -/
theorem oneInFlight_of_endsInTime {settings : Settings}
    (debounced : settings.debounce = some (.ticks debounce))
    (inTime : EndsInTime behaviour debounce) : OneInFlight behaviour settings := by
  intro state reaches occurrence inTurn key
  obtain ⟨history, rfl, sound, _registered⟩ := reaches.exists_history
  have apart := reaches.apart debounced inTime
  rcases State.begins_cases history.state key occurrence with
    silent | ⟨begins, position, task, rfl, found, rfl, stage, _current⟩
  · rw [silent]
    exact apart.inFlight_le_one sound.distinct key
  · have first : position = 0 := inTurn
    rw [first] at found
    have nobody := apart.inFlight_of_begins sound.distinct found stage
    omega

end

/-! ### Calls that never begin -/

/-- Where a task stands whose debounce does not end. -/
inductive Dozes : Place Request Inner → Prop
  | scheduled {task : Task Request Inner} (stage : task.stage = .scheduled) :
      Dozes (.queued task .elapsed)
  | asked {task : Task Request Inner} (early : task.stage.phase = .waiting) :
      Dozes (.queued task .cancelled)
  | asleep {task : Task Request Inner} (stage : task.stage = .debouncing) :
      Dozes (.asleep task none)

theorem Dozes.early {task : Task Request Inner} {place : Place Request Inner}
    (dozes : Dozes place) (seats : Seats state task place) : task.stage.phase = .waiting := by
  cases dozes with
  | scheduled stage =>
      cases seats
      rw [stage]
      rfl
  | asked early =>
      cases seats
      exact early
  | asleep stage =>
      cases seats
      rw [stage]
      rfl

/-- Whoever dozes does not wake from a debounce. -/
theorem Dozes.not_ripe {task : Task Request Inner} (dozes : Dozes (.queued task .elapsed)) :
    task.stage ≠ .debouncing := by
  cases dozes with
  | scheduled stage =>
      rw [stage]
      exact fun same => by cases same

def Dormant (state : State World Note Request Inner) : Prop :=
  ∀ task place, Seats state task place → Dozes place

theorem Dormant.of_sublist (dormant : Dormant before)
    (ready : after.ready.Sublist before.ready)
    (sleeping : after.sleeping.Sublist before.sleeping) : Dormant after :=
  fun task place seats => dormant task place (seats.of_sublist ready sleeping)

theorem Dormant.supersede (dormant : Dormant state) (key : String) :
    Dormant (state.supersede key) := by
  obtain ⟨registry, _tasks, ⟨_none, same⟩ | ⟨generation, _some, same⟩⟩ :=
    state.supersede_cases key
  · rw [same]
    exact dormant.of_sublist (List.Sublist.refl _) (List.Sublist.refl _)
  · rw [same]
    intro task place seats
    have marked : Dormant { state with registry } :=
      dormant.of_sublist (List.Sublist.refl _) (List.Sublist.refl _)
    rcases seats_cancelTask seats with ⟨kept, _other⟩ | ⟨_named, rfl, former, kept⟩
    · exact marked task place kept
    · exact .asked ((marked task former kept).early kept)

theorem Dormant.cancelKeys (keys : List String) (dormant : Dormant state) :
    Dormant (keys.foldl State.cancelKey state) := by
  induction keys generalizing state with
  | nil => exact dormant
  | cons key keys ih =>
      exact ih ((dormant.supersede key).of_sublist (List.Sublist.refl _) (List.Sublist.refl _))

theorem Dormant.beginClosing (dormant : Dormant state) : Dormant state.beginClosing :=
  (dormant.cancelKeys state.registry.tokens.keys).of_sublist (List.Sublist.refl _)
    (List.Sublist.refl _)

/-- More in the queue that is no task, or one that is scheduled, wakes nobody. -/
theorem Dormant.append (dormant : Dormant before) {item : Item Request Inner}
    (ready : after.ready = before.ready ++ [item]) (sleeping : after.sleeping = before.sleeping)
    (dozes : ∀ task wake, item = .task task wake → Dozes (.queued task wake)) :
    Dormant after := by
  intro task place seats
  cases seats with
  | asleep present =>
      rw [sleeping] at present
      exact dormant _ _ (.asleep present)
  | queued present =>
      rw [ready, List.mem_append, List.mem_singleton] at present
      rcases present with kept | new
      · exact dormant _ _ (.queued kept)
      · exact dozes _ _ new.symm

theorem Dormant.turn (dormant : Dormant state)
    (endless : ∀ ticks, state.settings.debounce ≠ some (.ticks ticks)) (position : Nat) :
    Dormant (state.occur behaviour (.turn position)) := by
  have taken : Dormant (state.taken position) :=
    dormant.of_sublist (List.eraseIdx_sublist _ _) (List.Sublist.refl _)
  rcases state.occur_turn_cases behaviour position with
    ⟨_found, same⟩ | ⟨_found, same⟩ | ⟨task, wake, found, same⟩
  · rw [same]
    exact dormant
  · rw [same]
    exact taken.beginClosing
  · rw [same]
    have here : Seats state task (.queued task wake) :=
      .queued (List.mem_of_getElem? found)
    obtain ⟨place, goes, moved⟩ :=
      State.runTask_moved behaviour (state.taken position) task wake
    intro other seat seats
    rcases moved.seats seats with kept | rfl
    · exact taken other seat kept
    · cases goes with
      | debounce ticks stage elapsed agreed =>
          cases ticks with
          | none => exact .asleep rfl
          | some ticks => exact absurd agreed (endless ticks)
      | start _place stage elapsed current led =>
          rw [elapsed] at here
          exact absurd stage (dormant task _ here).not_ripe
      | resume _place inner stage led =>
          have early := (dormant task _ here).early here
          rw [stage] at early
          cases early
      | drop outcome early => cases seats

theorem Dormant.tick (dormant : Dormant state) (settled : state.ready = []) :
    Dormant state.tick := by
  intro task place seats
  obtain ⟨due, kept, rfl⟩ := seats_tick settled seats
  cases dormant task _ kept with
  | asleep stage => exact .asleep stage

theorem Reaches.dormant {settings : Settings} (reaches : Reaches behaviour settings state)
    (endless : ∀ ticks, settings.debounce ≠ some (.ticks ticks)) : Dormant state := by
  induction reaches with
  | initial world =>
      intro task place seats
      cases seats with
      | queued present => cases present
      | asleep present => cases present
  | @next state occurrence before inTurn dormant =>
      cases occurrence with
      | trigger key source request =>
          simp only [State.occur, State.trigger]
          split
          · refine (dormant.supersede key).append rfl rfl ?_
            intro task wake same
            rw [Item.task.injEq] at same
            rw [← same.1, ← same.2]
            exact .scheduled rfl
          · exact dormant.of_sublist (List.Sublist.refl _) (List.Sublist.refl _)
      | cancel key =>
          exact (dormant.supersede key).of_sublist (List.Sublist.refl _) (List.Sublist.refl _)
      | forget key => cases inTurn
      | close => exact dormant.beginClosing
      | queueClose =>
          refine dormant.append rfl rfl ?_
          intro task wake same
          cases same
      | turn position =>
          refine dormant.turn ?_ position
          rw [before.configured]
          exact endless
      | wake position => cases inTurn
      | tick => exact dormant.tick inTurn
      | outside world => exact dormant.of_sublist (List.Sublist.refl _) (List.Sublist.refl _)

/-- Without a debounce that ends, no call is ever in flight. -/
theorem oneInFlight_of_endless {settings : Settings}
    (endless : ∀ ticks, settings.debounce ≠ some (.ticks ticks)) :
    OneInFlight behaviour settings := by
  intro state reaches occurrence _inTurn key
  have dormant := reaches.dormant endless
  have none : state.inFlight key = 0 := by
    apply State.inFlight_eq_zero
    intro task place seats working
    rw [(dormant task place seats).early seats] at working
    cases working
  rw [none, Nat.zero_add]
  rcases State.begins_cases state key occurrence with
    silent | ⟨begins, position, task, rfl, found, rfl, stage, _current⟩
  · rw [silent]
    exact Nat.zero_le 1
  · exact Nat.le_of_eq begins

end

end ListingAtlas.Session
