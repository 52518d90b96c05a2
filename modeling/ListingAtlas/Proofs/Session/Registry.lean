import ListingAtlas.Proofs.Session.Newest
import ListingAtlas.Proofs.Session.Places

/-!
What the registry says of tokens and tasks. A token that is no longer current never is again, and the
newest task of a key is one that was triggered for it.
-/

namespace ListingAtlas.Session

variable {World Note Request Inner : Type}

/-! ### Current tokens -/

theorem isCurrent_congr {before after : Registry} {token : Token}
    (tokens : after.tokens.get? token.key = before.tokens.get? token.key) :
    after.isCurrent token = before.isCurrent token := by
  unfold Registry.isCurrent
  rw [tokens]

theorem isCurrent_unique {registry : Registry} {first second : Token}
    (one : registry.isCurrent first = true) (two : registry.isCurrent second = true)
    (sameKey : first.key = second.key) : first.generation = second.generation := by
  unfold Registry.isCurrent at one two
  rw [← sameKey] at two
  cases newest : registry.tokens.get? first.key with
  | none =>
      rw [newest] at one
      cases one
  | some token =>
      rw [newest] at one two
      simp only [Bool.and_eq_true, beq_iff_eq] at one two
      exact one.1.symm.trans two.1

/-- What is not current never is again. -/
theorem CallOnly.stale {call : Option Call} {before after : State World Note Request Inner}
    (only : CallOnly call before after) {token : Token}
    (issued : token.generation < before.registry.nextGeneration)
    (stale : before.registry.isCurrent token = false) :
    after.registry.isCurrent token = false := by
  unfold Registry.isCurrent at stale ⊢
  rw [only.tokens]
  cases call with
  | none => exact stale
  | some call =>
      cases call with
      | accepted key generation =>
          have number := only.numbered key generation rfl
          simp only [Option.elim_some, Call.tokenOf]
          by_cases same : token.key = key
          · rw [if_pos same]
            have different : ¬ generation = token.generation := by omega
            simp [Token.issue, different]
          · rw [if_neg same]
            exact stale
      | cancelled key =>
          simp only [Option.elim_some, Call.tokenOf]
          by_cases same : token.key = key
          · rw [if_pos same]
          · rw [if_neg same]
            exact stale
      | closed => rfl

/-- A call that counts for its key makes a token stale. -/
theorem CallOnly.stale_of_ends {call : Call} {before after : State World Note Request Inner}
    (only : CallOnly (some call) before after) {token : Token}
    (issued : token.generation < before.registry.nextGeneration)
    (ends : call.Ends token.key) : after.registry.isCurrent token = false := by
  unfold Registry.isCurrent
  rw [only.tokens]
  cases call with
  | accepted key generation =>
      have number := only.numbered key generation rfl
      have same : token.key = key := ends.symm
      simp only [Option.elim_some, Call.tokenOf, if_pos same]
      have different : ¬ generation = token.generation := by omega
      simp [Token.issue, different]
  | cancelled key =>
      have same : token.key = key := ends.symm
      simp only [Option.elim_some, Call.tokenOf, if_pos same]
  | closed => rfl

/-! ### Newest tasks -/

theorem State.supersede_clock (state : State World Note Request Inner) (key : String) :
    (state.supersede key).clock = state.clock ∧
      (state.supersede key).registry.tasks = state.registry.tasks := by
  obtain ⟨registry, tasks, ⟨_none, same⟩ | ⟨generation, _some, same⟩⟩ :=
    state.supersede_cases key
  · rw [same]
    exact ⟨rfl, tasks⟩
  · rw [same]
    exact ⟨rfl, tasks⟩

theorem State.tasks_cancelKey (state : State World Note Request Inner) (key other : String) :
    (state.cancelKey key).registry.tasks.get? other =
      if other = key then none else state.registry.tasks.get? other := by
  refine (Table.get?_erase ..).trans ?_
  rw [(state.supersede_clock key).2]

theorem State.tasks_schedule (state : State World Note Request Inner) (key other : String)
    (request : Request) :
    (state.schedule key request).registry.tasks.get? other =
      if other = key then some state.registry.nextGeneration
      else state.registry.tasks.get? other := by
  have sameNext := (supersede_quiet state key).nextGeneration
  rw [List.length_nil, Int.natCast_zero, Int.add_zero] at sameNext
  refine (Table.get?_insert ..).trans ?_
  rw [(state.supersede_clock key).2]
  simp only [Token.issue, sameNext]

theorem State.tasks_beginClosing {state : State World Note Request Inner} {key : String}
    {generation : Int} (found : state.beginClosing.registry.tasks.get? key = some generation) :
    state.registry.tasks.get? key = some generation := by
  change (state.registry.tokens.keys.foldl cancelKey state).registry.tasks.get? key = _ at found
  generalize state.registry.tokens.keys = keys at found
  induction keys generalizing state with
  | nil => exact found
  | cons cancelled keys ih =>
      have before := ih found
      rw [tasks_cancelKey] at before
      split at before
      · cases before
      · exact before

theorem State.clock_cancelKeys (keys : List String) (state : State World Note Request Inner) :
    (keys.foldl cancelKey state).clock = state.clock := by
  induction keys generalizing state with
  | nil => rfl
  | cons key keys ih =>
      rw [List.foldl_cons, ih]
      exact (state.supersede_clock key).1

def Occurrence.ticks : Occurrence World Request → Nat
  | .tick => 1
  | _ => 0

theorem State.occur_clock (behaviour : Behaviour World Note Request Inner)
    (state : State World Note Request Inner) (occurrence : Occurrence World Request) :
    (state.occur behaviour occurrence).clock = state.clock + occurrence.ticks := by
  cases occurrence with
  | trigger key source request =>
      simp only [occur, trigger]
      split
      · exact (state.supersede_clock key).1
      · rfl
  | cancel key => exact (state.supersede_clock key).1
  | close => exact clock_cancelKeys _ state
  | turn position =>
      rcases state.occur_turn_cases behaviour position with
        ⟨_found, same⟩ | ⟨_found, same⟩ | ⟨task, wake, found, _same⟩
      · rw [same]
        rfl
      · rw [same]
        exact clock_cancelKeys _ (state.taken position)
      · obtain ⟨new, more, turn⟩ := state.occur_turnOf behaviour found
        exact turn.clock
  | wake position =>
      simp only [occur, wakeAt]
      split <;> rfl
  | _ => rfl

/-- A task becomes the newest of a key only by a trigger for it. -/
theorem occur_tasks {behaviour : Behaviour World Note Request Inner}
    {state : State World Note Request Inner} {occurrence : Occurrence World Request} {key : String}
    {generation : Int}
    (found : (state.occur behaviour occurrence).registry.tasks.get? key = some generation) :
    state.registry.tasks.get? key = some generation ∨
      callOf? state occurrence = some (.accepted key generation) := by
  cases occurrence with
  | trigger other source request =>
      simp only [State.occur, State.trigger] at found
      by_cases accepted : State.accepts source = true
      · rw [if_pos accepted, State.tasks_schedule] at found
        simp only [callOf?, if_pos accepted]
        split at found
        · rename_i same
          rw [same, Option.some.inj found]
          exact Or.inr rfl
        · exact Or.inl found
      · rw [if_neg accepted] at found
        exact Or.inl found
  | cancel other =>
      simp only [State.occur, State.tasks_cancelKey] at found
      split at found
      · cases found
      · exact Or.inl found
  | forget other =>
      change (state.registry.tasks.erase other).get? key = _ at found
      rw [Table.get?_erase] at found
      split at found
      · cases found
      · exact Or.inl found
  | close => exact Or.inl (State.tasks_beginClosing found)
  | queueClose => exact Or.inl found
  | turn position =>
      rcases state.occur_turn_cases behaviour position with
        ⟨_queued, same⟩ | ⟨_queued, same⟩ | ⟨task, wake, queued, _same⟩
      · rw [same] at found
        exact Or.inl found
      · rw [same] at found
        have before := State.tasks_beginClosing found
        exact Or.inl before
      · obtain ⟨new, more, turn⟩ := state.occur_turnOf behaviour queued
        rw [turn.tasks] at found
        exact Or.inl found
  | wake position =>
      have same : (state.wakeAt position).registry = state.registry := by
        unfold State.wakeAt
        split <;> rfl
      simp only [State.occur, same] at found
      exact Or.inl found
  | tick => exact Or.inl found
  | outside world => exact Or.inl found

/-- The newest task of a key has been issued, and is one of the key. -/
def Registered (state : State World Note Request Inner) : Prop :=
  ∀ key generation, state.registry.tasks.get? key = some generation →
    generation < state.registry.nextGeneration ∧
      ∀ entry ∈ state.roster, entry.1.generation = generation → entry.1.key = key

theorem Registered.extend {settings : Settings} {history : History World Note Request Inner}
    (sound : Sound settings history) (registered : Registered history.state)
    (behaviour : Behaviour World Note Request Inner) (occurrence : Occurrence World Request) :
    Registered (history.extend behaviour occurrence).state := by
  intro key generation found
  cases spoken : speaker? history.state occurrence with
  | none =>
      have only := occur_callOnly behaviour history.state occurrence spoken
      rcases occur_tasks found with old | accepted
      · obtain ⟨issued, named⟩ := registered key generation old
        refine ⟨Int.lt_of_lt_of_le issued only.next_le, ?_⟩
        intro entry member same
        rcases only.mem_roster.mp member with added | kept
        · have number := only.fresh added
          omega
        · exact named entry kept same
      · have number := only.numbered key generation accepted
        have added : (Token.issue key generation, Phase.waiting) ∈
            (callOf? history.state occurrence).toList.flatMap Call.added := by
          rw [accepted]
          exact List.mem_flatMap.mpr
            ⟨_, List.mem_singleton_self _, Call.added_accepted key generation⟩
        have less := only.next_lt added
        refine ⟨by rw [number]; exact less, ?_⟩
        intro entry member same
        rcases only.mem_roster.mp member with new | kept
        · rw [accepted, Option.toList_some, List.flatMap_singleton] at new
          have made := (Call.mem_added new).1
          rw [Call.accepted.injEq] at made
          exact made.1.symm
        · have issued := sound.issued entry kept
          omega
  | some task =>
      obtain ⟨position, wake, rfl, queued⟩ := speaker?_eq_some spoken
      obtain ⟨new, more, turn⟩ := history.state.occur_turnOf behaviour queued
      change (history.state.occur behaviour (.turn position)).registry.tasks.get? key = _ at found
      rw [turn.tasks] at found
      obtain ⟨issued, named⟩ := registered key generation found
      refine ⟨Int.lt_of_lt_of_le issued (Int.le_of_eq turn.nextGeneration.symm), ?_⟩
      intro entry member same
      obtain ⟨former, present, alike⟩ := turn.exists_before queued member
      rw [← alike] at same ⊢
      exact named former present same

end ListingAtlas.Session
