import ListingAtlas.Proofs.Session.Stretch
import Mathlib.Data.List.Perm.Basic

/-!
What calls do to a session, and what time does. None of this is heard, ends a task or touches a
result: a call changes which trigger of a key counts, and asks tasks to stop.
-/

namespace ListingAtlas.Session

variable {World Note Request Inner : Type}

/-! ### The newest trigger of a key -/

theorem isNewest_append_accepted (key : String) (generation : Int) (calls : List Call) :
    IsNewest key generation (calls ++ [.accepted key generation]) :=
  ⟨calls, [], rfl, by simp⟩

theorem IsNewest.append {key : String} {generation : Int} {calls : List Call}
    (newest : IsNewest key generation calls) {call : Call} (other : ¬ call.Ends key) :
    IsNewest key generation (calls ++ [call]) := by
  obtain ⟨earlier, later, rfl, unended⟩ := newest
  refine ⟨earlier, later ++ [call], by simp, ?_⟩
  intro member present
  rw [List.mem_append, List.mem_singleton] at present
  rcases present with before | last
  · exact unended member before
  · rw [last]
    exact other

theorem isNewest_append_one {key : String} {generation : Int} {calls : List Call} {call : Call}
    (newest : IsNewest key generation (calls ++ [call])) :
    call = .accepted key generation ∨ (¬ call.Ends key ∧ IsNewest key generation calls) := by
  obtain ⟨earlier, later, same, unended⟩ := newest
  induction later using List.reverseRecOn with
  | nil =>
      have last := List.append_inj_right' same rfl
      rw [List.singleton_inj] at last
      exact Or.inl last
  | append_singleton later last _ih =>
      rw [← List.cons_append, ← List.append_assoc] at same
      have rest := List.append_inj_left' same rfl
      have lastSame := List.append_inj_right' same rfl
      rw [List.singleton_inj] at lastSame
      refine Or.inr ⟨?_, earlier, later, rest, ?_⟩
      · rw [lastSame]
        exact unended last (by simp)
      · intro member present
        exact unended member (List.mem_append_left _ present)

theorem IsNewest.unique {key : String} {first second : Int} {calls : List Call}
    (newest : IsNewest key first calls) (other : IsNewest key second calls) : first = second := by
  induction calls using List.reverseRecOn with
  | nil =>
      obtain ⟨earlier, later, same, _unended⟩ := newest
      simp at same
  | append_singleton calls call ih =>
      rcases isNewest_append_one newest with accepted | ⟨unended, before⟩
      · rcases isNewest_append_one other with acceptedToo | ⟨unended, _before⟩
        · rw [accepted, Call.accepted.injEq] at acceptedToo
          exact acceptedToo.2
        · rw [accepted] at unended
          exact absurd rfl unended
      · rcases isNewest_append_one other with accepted | ⟨_unended, beforeToo⟩
        · rw [accepted] at unended
          exact absurd rfl unended
        · exact ih before beforeToo

/-! ### What is neither heard nor ends anything -/

/-- What a call or time may not touch; a call can only add tasks that wait. -/
structure Quiet (added : List (Token × Phase)) (before after : State World Note Request Inner) :
    Prop where
  settings : after.settings = before.settings
  status : after.status = before.status
  detail : after.detail = before.detail
  results : after.registry.results = before.registry.results
  nextGeneration : after.registry.nextGeneration = before.registry.nextGeneration + added.length
  finished : after.finished = before.finished
  events : after.events = before.events
  roster : after.roster.Perm (added ++ before.roster)

namespace Quiet

variable {before between after : State World Note Request Inner}
  {added addedLater : List (Token × Phase)}

theorem refl (state : State World Note Request Inner) : Quiet [] state state :=
  ⟨rfl, rfl, rfl, rfl, (Int.add_zero _).symm, rfl, rfl, List.Perm.refl _⟩

theorem trans (first : Quiet added before between) (second : Quiet addedLater between after) :
    Quiet (addedLater ++ added) before after where
  settings := second.settings.trans first.settings
  status := second.status.trans first.status
  detail := second.detail.trans first.detail
  results := second.results.trans first.results
  nextGeneration := by
    rw [second.nextGeneration, first.nextGeneration, List.length_append]
    omega
  finished := second.finished.trans first.finished
  events := second.events.trans first.events
  roster := by
    rw [List.append_assoc]
    exact second.roster.trans (first.roster.append_left addedLater)

end Quiet

namespace State

/-! ### Asking to stop -/

theorem filterMap_entry?_cancelled (generation : Int) (items : List (Item Request Inner)) :
    (items.map (Item.cancelled generation)).filterMap Item.entry? =
      items.filterMap Item.entry? := by
  rw [List.filterMap_map]
  congr 1
  funext item
  cases item <;> rfl

theorem entries_woken (wake : Wake) (woken asleep sleeping : List (Sleeper Request Inner))
    (split : (woken ++ asleep).Perm sleeping) (items : List (Item Request Inner)) :
    ((items ++ woken.map fun sleeper => Item.task sleeper.task wake).filterMap Item.entry? ++
      asleep.map Sleeper.entry).Perm
      (items.filterMap Item.entry? ++ sleeping.map Sleeper.entry) := by
  have moved : (woken.map fun sleeper => (Item.task sleeper.task wake)).filterMap Item.entry? =
      woken.map Sleeper.entry := by
    rw [List.filterMap_map, ← List.filterMap_eq_map]
    rfl
  rw [List.filterMap_append, moved, List.append_assoc, ← List.map_append]
  exact (split.map Sleeper.entry).append_left _

theorem partition_perm (test : Sleeper Request Inner → Bool)
    (sleeping : List (Sleeper Request Inner)) :
    ((sleeping.partition test).1 ++ (sleeping.partition test).2).Perm sleeping := by
  rw [List.partition_eq_filter_filter]
  exact List.filter_append_perm test sleeping

theorem cancelTask_quiet (state : State World Note Request Inner) (generation : Int) :
    Quiet [] state (state.cancelTask generation) where
  settings := rfl
  status := rfl
  detail := rfl
  results := rfl
  nextGeneration := (Int.add_zero _).symm
  finished := rfl
  events := rfl
  roster := by
    have moved := entries_woken .cancelled _ _ _
      (partition_perm (fun sleeper => sleeper.task.token.generation == generation) state.sleeping)
      (state.ready.map (Item.cancelled generation))
    rw [filterMap_entry?_cancelled] at moved
    exact moved.append_right _

theorem supersede_quiet (state : State World Note Request Inner) (key : String) :
    Quiet [] state (state.supersede key) := by
  have marked (tokens : Table String Token) :
      Quiet [] state { state with registry := { state.registry with tokens } } :=
    ⟨rfl, rfl, rfl, rfl, (Int.add_zero _).symm, rfl, rfl, List.Perm.refl _⟩
  unfold supersede
  cases state.registry.tokens.get? key with
  | none =>
      simp only
      split
      · exact cancelTask_quiet state _
      · exact Quiet.refl state
  | some token =>
      simp only
      split
      · exact (marked _).trans (cancelTask_quiet _ _)
      · exact marked _

theorem cancelKey_quiet (state : State World Note Request Inner) (key : String) :
    Quiet [] state (state.cancelKey key) := by
  have superseded := supersede_quiet state key
  exact ⟨superseded.settings, superseded.status, superseded.detail, superseded.results,
    superseded.nextGeneration, superseded.finished, superseded.events, superseded.roster⟩

theorem cancelKeys_quiet (keys : List String) (state : State World Note Request Inner) :
    Quiet [] state (keys.foldl cancelKey state) := by
  induction keys generalizing state with
  | nil => exact Quiet.refl state
  | cons key keys ih => exact (cancelKey_quiet state key).trans (ih _)

theorem beginClosing_quiet (state : State World Note Request Inner) :
    Quiet [] state state.beginClosing := by
  have cancelled := cancelKeys_quiet state.registry.tokens.keys state
  exact ⟨cancelled.settings, cancelled.status, cancelled.detail, cancelled.results,
    cancelled.nextGeneration, cancelled.finished, cancelled.events, cancelled.roster⟩

theorem schedule_quiet (state : State World Note Request Inner) (key : String)
    (request : Request) :
    Quiet [(Token.issue key state.registry.nextGeneration, .waiting)] state
      (state.schedule key request) := by
  have superseded := supersede_quiet state key
  have sameNext := superseded.nextGeneration
  rw [List.length_nil, Int.natCast_zero, Int.add_zero] at sameNext
  refine ⟨superseded.settings, superseded.status, superseded.detail, superseded.results, ?_,
    superseded.finished, superseded.events, ?_⟩
  · simp [schedule, sameNext]
  · simp only [schedule, roster, List.filterMap_append, List.filterMap_cons, Item.entry?,
      List.filterMap_nil, Stage.phase, sameNext, List.append_assoc, List.cons_append,
      List.nil_append]
    refine List.perm_middle.trans (List.Perm.cons _ ?_)
    have perm := superseded.roster
    simp only [roster, List.append_assoc, List.nil_append] at perm
    exact perm

theorem tick_quiet (state : State World Note Request Inner) : Quiet [] state state.tick where
  settings := rfl
  status := rfl
  detail := rfl
  results := rfl
  nextGeneration := (Int.add_zero _).symm
  finished := rfl
  events := rfl
  roster := (entries_woken .elapsed _ _ _
    (partition_perm (isDue (state.clock + 1)) state.sleeping) state.ready).append_right _

theorem wakeAt_quiet (state : State World Note Request Inner) (position : Nat) :
    Quiet [] state (state.wakeAt position) := by
  unfold wakeAt
  cases found : state.sleeping[position]? with
  | none => exact Quiet.refl state
  | some sleeper =>
      have split : ([sleeper] ++ state.sleeping.eraseIdx position).Perm state.sleeping := by
        obtain ⟨within, same⟩ := List.getElem?_eq_some_iff.mp found
        rw [← same]
        exact List.getElem_cons_eraseIdx_perm within
      exact ⟨rfl, rfl, rfl, rfl, (Int.add_zero _).symm, rfl, rfl,
        (entries_woken .elapsed [sleeper] _ _ split state.ready).append_right _⟩

/-! ### Tokens -/

theorem tokens_supersede_other (state : State World Note Request Inner) {key other : String}
    (different : other ≠ key) :
    (state.supersede key).registry.tokens.get? other = state.registry.tokens.get? other := by
  have marked (token : Token) : (state.registry.tokens.insert key token).get? other =
      state.registry.tokens.get? other :=
    (Table.get?_insert ..).trans (if_neg different)
  unfold supersede
  cases state.registry.tokens.get? key with
  | none =>
      simp only
      split <;> rfl
  | some token =>
      simp only
      split <;> exact marked token.cancel

theorem tokens_cancelKey (state : State World Note Request Inner) (key other : String) :
    (state.cancelKey key).registry.tokens.get? other =
      if other = key then none else state.registry.tokens.get? other := by
  refine (Table.get?_erase ..).trans ?_
  by_cases same : other = key
  · rw [if_pos same, if_pos same]
  · rw [if_neg same, if_neg same]
    exact tokens_supersede_other state same

theorem tokens_schedule (state : State World Note Request Inner) (key other : String)
    (request : Request) :
    (state.schedule key request).registry.tokens.get? other =
      if other = key then some (Token.issue key state.registry.nextGeneration)
      else state.registry.tokens.get? other := by
  have sameNext := (supersede_quiet state key).nextGeneration
  rw [List.length_nil, Int.natCast_zero, Int.add_zero] at sameNext
  refine (Table.get?_insert ..).trans ?_
  by_cases same : other = key
  · rw [if_pos same, if_pos same, sameNext]
  · rw [if_neg same, if_neg same]
    exact tokens_supersede_other state same

theorem tokens_cancelKeys (keys : List String) (state : State World Note Request Inner)
    (other : String) :
    (keys.foldl cancelKey state).registry.tokens.get? other =
      if other ∈ keys then none else state.registry.tokens.get? other := by
  induction keys generalizing state with
  | nil => rfl
  | cons key keys ih =>
      rw [List.foldl_cons, ih, tokens_cancelKey]
      by_cases inRest : other ∈ keys
      · rw [if_pos inRest, if_pos (List.mem_cons_of_mem key inRest)]
      · rw [if_neg inRest]
        by_cases same : other = key
        · rw [if_pos same, if_pos (by simp [same])]
        · rw [if_neg same, if_neg (by simp [same, inRest])]

theorem tokens_beginClosing (state : State World Note Request Inner) (key : String) :
    state.beginClosing.registry.tokens.get? key = none := by
  change (state.registry.tokens.keys.foldl cancelKey state).registry.tokens.get? key = none
  rw [tokens_cancelKeys]
  split
  · rfl
  · rename_i missing
    exact Table.get?_eq_none missing

end State

/-! ### Every occurrence is quiet or the turn of a task -/

def Call.added : Call → List (Token × Phase)
  | .accepted key generation => [(Token.issue key generation, .waiting)]
  | _ => []

/-- What a call makes of the token of a key. -/
def Call.tokenOf (key : String) (before : Option Token) : Call → Option Token
  | .accepted other generation => if key = other then some (Token.issue other generation) else before
  | .cancelled other => if key = other then none else before
  | .closed => none

/-- What an occurrence comes to that is not the turn of a task. -/
structure CallOnly (call : Option Call) (before after : State World Note Request Inner) : Prop
    extends Quiet (call.toList.flatMap Call.added) before after where
  tokens : ∀ key, after.registry.tokens.get? key =
    call.elim (before.registry.tokens.get? key)
      (Call.tokenOf key (before.registry.tokens.get? key))
  numbered : ∀ key generation, call = some (.accepted key generation) →
    generation = before.registry.nextGeneration

theorem CallOnly.mem_roster {call : Option Call} {before after : State World Note Request Inner}
    (only : CallOnly call before after) {entry : Token × Phase} :
    entry ∈ after.roster ↔ entry ∈ call.toList.flatMap Call.added ∨ entry ∈ before.roster := by
  rw [only.roster.mem_iff, List.mem_append]

/-- The queue without the item that has its turn. -/
def State.taken (state : State World Note Request Inner) (position : Nat) :
    State World Note Request Inner :=
  { state with ready := state.ready.eraseIdx position }

/-- What stands at a place of the queue has its turn, if anything does. -/
theorem State.occur_turn_cases (behaviour : Behaviour World Note Request Inner)
    (state : State World Note Request Inner) (position : Nat) :
    (state.ready[position]? = none ∧ state.occur behaviour (.turn position) = state) ∨
      (state.ready[position]? = some .closing ∧
        state.occur behaviour (.turn position) = (state.taken position).beginClosing) ∨
      ∃ task wake, state.ready[position]? = some (.task task wake) ∧
        state.occur behaviour (.turn position) =
          runTask behaviour (state.taken position) task wake := by
  simp only [occur, turnAt]
  cases state.ready[position]? with
  | none => exact Or.inl ⟨rfl, rfl⟩
  | some item =>
      cases item with
      | closing => exact Or.inr (Or.inl ⟨rfl, rfl⟩)
      | task task wake => exact Or.inr (Or.inr ⟨task, wake, rfl, rfl⟩)

theorem State.occur_turn {behaviour : Behaviour World Note Request Inner}
    {state : State World Note Request Inner} {position : Nat} {task : Task Request Inner}
    {wake : Wake} (found : state.ready[position]? = some (.task task wake)) :
    state.occur behaviour (.turn position) = runTask behaviour (state.taken position) task wake := by
  simp only [occur, turnAt, found]
  rfl

theorem State.taken_roster (state : State World Note Request Inner) {position : Nat}
    {task : Task Request Inner} {wake : Wake}
    (found : state.ready[position]? = some (.task task wake)) :
    state.roster.Perm ((task.token, task.stage.phase) :: (state.taken position).roster) := by
  obtain ⟨within, same⟩ := List.getElem?_eq_some_iff.mp found
  have moved := (List.getElem_cons_eraseIdx_perm within).filterMap Item.entry?
  rw [same, List.filterMap_cons] at moved
  exact (moved.symm.append_right _).append_right _

section

variable {state : State World Note Request Inner} {position : Nat} {task : Task Request Inner}
  {wake : Wake}

theorem State.mem_roster_taken (found : state.ready[position]? = some (.task task wake))
    {entry : Token × Phase} :
    entry ∈ state.roster ↔
      entry = (task.token, task.stage.phase) ∨ entry ∈ (state.taken position).roster := by
  rw [(state.taken_roster found).mem_iff, List.mem_cons]

/-- The task whose turn it is has its number to itself. -/
theorem State.ne_of_taken (found : state.ready[position]? = some (.task task wake))
    (distinct : (state.roster.map fun entry => entry.1.generation).Nodup) {entry : Token × Phase}
    (other : entry ∈ (state.taken position).roster) :
    entry.1.generation ≠ task.token.generation := by
  rw [((state.taken_roster found).map _).nodup_iff, List.map_cons, List.nodup_cons] at distinct
  exact fun same => distinct.1 (List.mem_map.mpr ⟨entry, other, same⟩)

variable {after : State World Note Request Inner} {new : Phase} {more : List (Event Note)}

theorem TurnOf.mem_roster {before : State World Note Request Inner} {token : Token} {old : Phase}
    (turn : TurnOf before after token old new more) {entry : Token × Phase} :
    entry ∈ after.roster ↔ entry = (token, new) ∨ entry ∈ before.roster := by
  rw [turn.roster.mem_iff, List.mem_cons]

/-- A turn brings nobody in. -/
theorem TurnOf.exists_before
    (turn : TurnOf (state.taken position) after task.token task.stage.phase new more)
    (found : state.ready[position]? = some (.task task wake)) {entry : Token × Phase}
    (member : entry ∈ after.roster) : ∃ former ∈ state.roster, former.1 = entry.1 := by
  rcases turn.mem_roster.mp member with rfl | other
  · exact ⟨_, (State.mem_roster_taken found).mpr (Or.inl rfl), rfl⟩
  · exact ⟨entry, (State.mem_roster_taken found).mpr (Or.inr other), rfl⟩

/-- A turn takes nobody out. -/
theorem TurnOf.exists_after
    (turn : TurnOf (state.taken position) after task.token task.stage.phase new more)
    (found : state.ready[position]? = some (.task task wake)) {entry : Token × Phase}
    (member : entry ∈ state.roster) : ∃ later ∈ after.roster, later.1 = entry.1 := by
  rcases (State.mem_roster_taken found).mp member with rfl | other
  · exact ⟨(task.token, new), turn.mem_roster.mpr (Or.inl rfl), rfl⟩
  · exact ⟨entry, turn.mem_roster.mpr (Or.inr other), rfl⟩

end

theorem callOnly_of_quiet {before after : State World Note Request Inner}
    (quiet : Quiet [] before after)
    (tokens : after.registry.tokens = before.registry.tokens) : CallOnly none before after :=
  { quiet with
    tokens := fun key => by rw [tokens]; rfl
    numbered := by simp }

theorem occur_trigger (state : State World Note Request Inner) (key : String) (source : Path)
    (request : Request) :
    CallOnly (callOf? state (.trigger key source request : Occurrence World Request)) state
      (state.trigger key source request) := by
  simp only [callOf?, State.trigger]
  by_cases accepted : State.accepts source = true
  · rw [if_pos accepted, if_pos accepted]
    exact
      { State.schedule_quiet state key request with
        tokens := fun other => State.tokens_schedule state key other request
        numbered := by
          intro named generation same
          simp only [Option.some.injEq, Call.accepted.injEq] at same
          exact same.2.symm }
  · rw [if_neg accepted, if_neg accepted]
    exact callOnly_of_quiet
      ⟨rfl, rfl, rfl, rfl, (Int.add_zero _).symm, rfl, rfl, List.Perm.refl _⟩ rfl

theorem cancelKey_callOnly (state : State World Note Request Inner) (key : String) :
    CallOnly (some (.cancelled key)) state (state.cancelKey key) :=
  { State.cancelKey_quiet state key with
    tokens := fun other => State.tokens_cancelKey state key other
    numbered := by simp }

theorem closing_callOnly (state : State World Note Request Inner) :
    CallOnly (some .closed) state state.beginClosing :=
  { State.beginClosing_quiet state with
    tokens := State.tokens_beginClosing state
    numbered := by simp }

theorem taken_closing (state : State World Note Request Inner) {position : Nat}
    (found : state.ready[position]? = some .closing) : Quiet [] state (state.taken position) := by
  obtain ⟨within, same⟩ := List.getElem?_eq_some_iff.mp found
  have moved := (List.getElem_cons_eraseIdx_perm within).filterMap Item.entry?
  rw [same, List.filterMap_cons] at moved
  exact ⟨rfl, rfl, rfl, rfl, (Int.add_zero _).symm, rfl, rfl,
    (moved.append_right _).append_right _⟩

theorem occur_callOnly (behaviour : Behaviour World Note Request Inner)
    (state : State World Note Request Inner) (occurrence : Occurrence World Request)
    (unspoken : speaker? state occurrence = none) :
    CallOnly (callOf? state occurrence) state (state.occur behaviour occurrence) := by
  cases occurrence with
  | trigger key source request => exact occur_trigger state key source request
  | cancel key => exact cancelKey_callOnly state key
  | forget key =>
      exact callOnly_of_quiet
        ⟨rfl, rfl, rfl, rfl, (Int.add_zero _).symm, rfl, rfl, List.Perm.refl _⟩ rfl
  | close => exact closing_callOnly state
  | queueClose =>
      refine callOnly_of_quiet
        ⟨rfl, rfl, rfl, rfl, (Int.add_zero _).symm, rfl, rfl, ?_⟩ rfl
      simp only [State.roster, State.occur, List.filterMap_append, List.nil_append]
      exact List.Perm.of_eq (by rw [List.filterMap_cons]; simp only [Item.entry?,
        List.filterMap_nil, List.append_nil])
  | turn position =>
      rcases state.occur_turn_cases behaviour position with
        ⟨found, same⟩ | ⟨found, same⟩ | ⟨task, wake, found, _same⟩
      · simp only [callOf?, found, same]
        exact callOnly_of_quiet (Quiet.refl state) rfl
      · simp only [callOf?, found, same]
        have begun := closing_callOnly (state.taken position)
        exact
          { (taken_closing state found).trans begun.toQuiet with
            tokens := begun.tokens
            numbered := by simp }
      · simp [speaker?, found] at unspoken
  | wake position =>
      apply callOnly_of_quiet (State.wakeAt_quiet state position)
      simp only [State.wakeAt]
      cases state.sleeping[position]? <;> rfl
  | tick => exact callOnly_of_quiet (State.tick_quiet state) rfl
  | outside world =>
      exact callOnly_of_quiet
        ⟨rfl, rfl, rfl, rfl, (Int.add_zero _).symm, rfl, rfl, List.Perm.refl _⟩ rfl

theorem speaker?_eq_some {state : State World Note Request Inner}
    {occurrence : Occurrence World Request} {task : Task Request Inner}
    (spoken : speaker? state occurrence = some task) :
    ∃ position wake, occurrence = .turn position ∧
      state.ready[position]? = some (.task task wake) := by
  cases occurrence with
  | turn position =>
      simp only [speaker?] at spoken
      split at spoken
      · rename_i found
        rw [Option.some.injEq] at spoken
        subst spoken
        exact ⟨position, _, rfl, found⟩
      · cases spoken
  | _ => cases spoken

end ListingAtlas.Session
