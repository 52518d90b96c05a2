import ListingAtlas.Proofs.Session.Fate
import ListingAtlas.Proofs.Session.Leaving

/-!
The share of one key in a session. Tasks, tokens and what stands in the queue are left out that
belong to other keys, and the tasks of the key are numbered anew. What is done to other keys leaves
the share as it is, and what is done to the key itself is done to its share.
-/

namespace ListingAtlas.Session

variable {World Note Request Inner : Type}

/-! ### Shares -/

def Token.renumber (number : Int → Int) (token : Token) : Token :=
  { token with generation := number token.generation }

def Task.renumber (number : Int → Int) (task : Task Request Inner) : Task Request Inner :=
  { task with token := task.token.renumber number }

/-- Calls to close concern every key. -/
def Item.share? (key : String) (number : Int → Int) :
    Item Request Inner → Option (Item Request Inner)
  | .task member wake =>
      if member.token.key = key then some (.task (member.renumber number) wake) else none
  | .closing => some .closing

def Sleeper.share? (key : String) (number : Int → Int) (sleeper : Sleeper Request Inner) :
    Option (Sleeper Request Inner) :=
  if sleeper.task.token.key = key then some ⟨sleeper.task.renumber number, sleeper.due⟩ else none

def Finished.share? (key : String) (number : Int → Int) (finished : Finished) : Option Finished :=
  if finished.token.key = key then some ⟨finished.token.renumber number, finished.outcome⟩
  else none

/-- Whether the tasks of a session are the share of a key in another. -/
structure Aligned (key : String) (number : Int → Int)
    (whole alone : State World Note Request Inner) : Prop where
  settings : alone.settings = whole.settings
  clock : alone.clock = whole.clock
  ready : alone.ready = whole.ready.filterMap (Item.share? key number)
  sleeping : alone.sleeping = whole.sleeping.filterMap (Sleeper.share? key number)
  finished : alone.finished = whole.finished.filterMap (Finished.share? key number)

/-- Whether a session is the share of a key in another. -/
structure Shares (key : String) (number : Int → Int)
    (whole alone : State World Note Request Inner) : Prop
    extends Aligned key number whole alone where
  token : alone.registry.tokens.get? key =
    (whole.registry.tokens.get? key).map (Token.renumber number)
  others : ∀ other, other ≠ key → alone.registry.tokens.get? other = none
  task : alone.registry.tasks.get? key = (whole.registry.tasks.get? key).map number

section

variable {key : String} {number : Int → Int} {whole alone : State World Note Request Inner}

theorem Shares.isCurrent (shares : Shares key number whole alone)
    (injective : Function.Injective number) {token : Token} (own : token.key = key) :
    alone.registry.isCurrent (token.renumber number) = whole.registry.isCurrent token := by
  unfold Registry.isCurrent
  rw [show (token.renumber number).key = key from own, own, shares.token]
  cases whole.registry.tokens.get? key with
  | none => rfl
  | some newest =>
      have same : (number newest.generation == number token.generation) =
          (newest.generation == token.generation) := by
        rw [Bool.eq_iff_iff, beq_iff_eq, beq_iff_eq, injective.eq_iff]
      simp only [Option.map_some, Token.renumber, same]

/-- What the registries hold is no matter of the tasks. -/
theorem Aligned.register (aligned : Aligned key number whole alone) (one other : Registry) :
    Aligned key number { whole with registry := one } { alone with registry := other } :=
  ⟨aligned.settings, aligned.clock, aligned.ready, aligned.sleeping, aligned.finished⟩

/-! ### Asking tasks to stop -/

theorem share?_cancelled (injective : Function.Injective number) (generation : Int)
    (item : Item Request Inner) :
    (item.cancelled generation).share? key number =
      (item.share? key number).map (Item.cancelled (number generation)) := by
  cases item with
  | closing => rfl
  | task task wake =>
      have same : (number task.token.generation == number generation) =
          (task.token.generation == generation) := by
        rw [Bool.eq_iff_iff, beq_iff_eq, beq_iff_eq, injective.eq_iff]
      by_cases own : task.token.key = key
      · simp only [Item.cancelled, Item.share?, if_pos own, Option.map_some, Task.renumber,
          Token.renumber, same]
      · simp only [Item.cancelled, Item.share?, if_neg own, Option.map_none]

theorem Aligned.cancelTask (aligned : Aligned key number whole alone)
    (injective : Function.Injective number) (generation : Int) :
    Aligned key number (whole.cancelTask generation) (alone.cancelTask (number generation)) := by
  refine ⟨aligned.settings, aligned.clock, ?_, ?_, aligned.finished⟩
  · rw [State.ready_cancelTask, State.ready_cancelTask, List.filterMap_append, aligned.ready,
      aligned.sleeping]
    congr 1
    · rw [List.map_filterMap, List.filterMap_map]
      congr 1
      funext item
      exact (share?_cancelled injective generation item).symm
    · rw [List.filter_filterMap, List.map_filterMap, List.filterMap_map, List.filterMap_filter]
      congr 1
      funext sleeper
      by_cases own : sleeper.task.token.key = key
      · by_cases asked : sleeper.task.token.generation = generation
        · simp [Sleeper.share?, Item.share?, own, asked, Task.renumber, Token.renumber]
        · simp [Sleeper.share?, own, asked, Task.renumber, Token.renumber, injective.eq_iff]
      · simp [Sleeper.share?, Item.share?, own]
  · rw [State.sleeping_cancelTask, State.sleeping_cancelTask, aligned.sleeping,
      List.filter_filterMap, List.filterMap_filter]
    congr 1
    funext sleeper
    by_cases own : sleeper.task.token.key = key
    · by_cases asked : sleeper.task.token.generation = generation
      · simp [Sleeper.share?, own, asked, Task.renumber, Token.renumber]
      · simp [Sleeper.share?, own, asked, Task.renumber, Token.renumber, injective.eq_iff]
    · simp [Sleeper.share?, own]

/-- No task of the key is the newest of another key. -/
def Separate (key : String) (state : State World Note Request Inner) : Prop :=
  ∀ other generation, other ≠ key → state.registry.tasks.get? other = some generation →
    ∀ entry ∈ state.roster, entry.1.key = key → entry.1.generation ≠ generation

theorem Registered.separate {state : State World Note Request Inner} (registered : Registered state)
    (key : String) : Separate key state := by
  intro other generation different newest entry member own same
  exact different (((registered other generation newest).2 entry member same).symm.trans own)

theorem Separate.cancelKey {state : State World Note Request Inner} (separate : Separate key state)
    (cancelled : String) : Separate key (state.cancelKey cancelled) := by
  intro other generation different newest entry member
  rw [State.tasks_cancelKey] at newest
  split at newest
  · cases newest
  · exact separate other generation different newest entry
      ((State.cancelKey_quiet state cancelled).roster.mem_iff.mp member)

/-- Tasks of other keys that are asked to stop leave the share as it is. -/
theorem Aligned.cancelTask_other (aligned : Aligned key number whole alone) {generation : Int}
    (apart : ∀ entry ∈ whole.roster, entry.1.key = key → entry.1.generation ≠ generation) :
    Aligned key number (whole.cancelTask generation) alone := by
  refine ⟨aligned.settings, aligned.clock, ?_, ?_, aligned.finished⟩
  · have queued : (whole.ready.map (Item.cancelled generation)).filterMap
        (Item.share? key number) = whole.ready.filterMap (Item.share? key number) := by
      rw [List.filterMap_map]
      apply List.filterMap_congr
      intro item present
      cases item with
      | closing => rfl
      | task task wake =>
          by_cases own : task.token.key = key
          · have other := apart _ (State.mem_roster_ready present) own
            have unasked : (task.token.generation == generation) = false := by
              rw [beq_eq_false_iff_ne]
              exact other
            simp [Item.cancelled, unasked]
          · simp [Item.cancelled, Item.share?, own]
    have woken : ((whole.sleeping.filter fun sleeper =>
        sleeper.task.token.generation == generation).map
          fun sleeper => (.task sleeper.task .cancelled : Item Request Inner)).filterMap
            (Item.share? key number) = [] := by
      rw [List.filterMap_map, List.filterMap_eq_nil_iff]
      intro sleeper asked
      rw [List.mem_filter, beq_iff_eq] at asked
      have other : sleeper.task.token.key ≠ key := fun own =>
        apart _ (State.mem_roster_sleeping asked.1) own asked.2
      exact if_neg other
    rw [State.ready_cancelTask, List.filterMap_append, queued, woken, List.append_nil]
    exact aligned.ready
  · rw [State.sleeping_cancelTask, List.filterMap_filter, aligned.sleeping]
    apply List.filterMap_congr
    intro sleeper present
    by_cases own : sleeper.task.token.key = key
    · have other := apart _ (State.mem_roster_sleeping present) own
      have unasked : (sleeper.task.token.generation == generation) = false := by
        rw [beq_eq_false_iff_ne]
        exact other
      simp [unasked]
    · simp [Sleeper.share?, own]

theorem Aligned.supersede (aligned : Aligned key number whole alone)
    (injective : Function.Injective number)
    (task : alone.registry.tasks.get? key = (whole.registry.tasks.get? key).map number) :
    Aligned key number (whole.supersede key) (alone.supersede key) := by
  obtain ⟨registry, _tasks, ⟨none, same⟩ | ⟨generation, newest, same⟩⟩ := whole.supersede_cases key
  · obtain ⟨registry', _tasks, ⟨_none, same'⟩ | ⟨generation, newest, _same⟩⟩ :=
      alone.supersede_cases key
    · rw [same, same']
      exact aligned.register registry registry'
    · rw [task, none] at newest
      cases newest
  · obtain ⟨registry', _tasks, ⟨none, _same⟩ | ⟨generation', newest', same'⟩⟩ :=
      alone.supersede_cases key
    · rw [task, newest] at none
      cases none
    · rw [task, newest, Option.map_some, Option.some.injEq] at newest'
      rw [same, same', ← newest']
      exact (aligned.register registry registry').cancelTask injective generation

theorem Aligned.supersede_other (aligned : Aligned key number whole alone)
    (separate : Separate key whole) {other : String} (different : other ≠ key) :
    Aligned key number (whole.supersede other) alone := by
  obtain ⟨registry, _tasks, ⟨_none, same⟩ | ⟨generation, newest, same⟩⟩ :=
    whole.supersede_cases other
  · rw [same]
    exact aligned.register registry alone.registry
  · rw [same]
    exact (aligned.register registry alone.registry).cancelTask_other
      (separate other generation different newest)

/-! ### Cancelling and forgetting -/

theorem Shares.cancelKey (shares : Shares key number whole alone)
    (injective : Function.Injective number) :
    Shares key number (whole.cancelKey key) (alone.cancelKey key) := by
  have aligned := shares.toAligned.supersede injective shares.task
  refine ⟨aligned.register _ _, ?_, ?_, ?_⟩
  · rw [State.tokens_cancelKey, State.tokens_cancelKey, if_pos rfl, if_pos rfl]
    rfl
  · intro other different
    rw [State.tokens_cancelKey, if_neg different]
    exact shares.others other different
  · rw [State.tasks_cancelKey, State.tasks_cancelKey, if_pos rfl, if_pos rfl]
    rfl

theorem Shares.cancelKey_other (shares : Shares key number whole alone)
    (separate : Separate key whole) {other : String} (different : other ≠ key) :
    Shares key number (whole.cancelKey other) alone := by
  have aligned := shares.toAligned.supersede_other separate different
  refine ⟨aligned.register _ alone.registry, ?_, shares.others, ?_⟩
  · rw [State.tokens_cancelKey, if_neg different.symm]
    exact shares.token
  · rw [State.tasks_cancelKey, if_neg different.symm]
    exact shares.task

/-- Of the keys that are cancelled one after the other only the own one matters. -/
theorem Shares.cancelKeys (injective : Function.Injective number) {keys : List String}
    (distinct : keys.Nodup) (shares : Shares key number whole alone)
    (separate : Separate key whole) :
    Shares key number (keys.foldl State.cancelKey whole)
      (if key ∈ keys then alone.cancelKey key else alone) := by
  induction keys generalizing whole alone with
  | nil => exact shares
  | cons first keys ih =>
      rw [List.nodup_cons] at distinct
      by_cases own : first = key
      · rw [own] at distinct ⊢
        rw [if_pos List.mem_cons_self]
        have rest := ih distinct.2 (shares.cancelKey injective) (separate.cancelKey key)
        rw [if_neg distinct.1] at rest
        exact rest
      · have rest := ih distinct.2 (shares.cancelKey_other separate own) (separate.cancelKey first)
        have same : key ∈ first :: keys ↔ key ∈ keys := by
          rw [List.mem_cons]
          exact or_iff_right fun equal => own equal.symm
        simp only [same]
        exact rest

/-- A session with one key cancels no other. -/
theorem Shares.cancelKeys_alone (shares : Shares key number whole alone) :
    alone.registry.tokens.keys.foldl State.cancelKey alone =
      if key ∈ whole.registry.tokens.keys then alone.cancelKey key else alone := by
  have own : ∀ other ∈ alone.registry.tokens.keys, other = key := by
    intro other member
    by_contra different
    rw [← Table.get?_isSome_iff, shares.others other different] at member
    cases member
  have known : key ∈ alone.registry.tokens.keys ↔ key ∈ whole.registry.tokens.keys := by
    rw [← Table.get?_isSome_iff, ← Table.get?_isSome_iff, shares.token, Option.isSome_map]
  have distinct : alone.registry.tokens.keys.Nodup := alone.registry.tokens.distinct
  cases keys : alone.registry.tokens.keys with
  | nil =>
      rw [if_neg, List.foldl_nil]
      rw [← known, keys]
      exact List.not_mem_nil
  | cons first rest =>
      rw [keys] at own distinct known
      have here : first = key := own first List.mem_cons_self
      have nobody : rest = [] := by
        cases rest with
        | nil => rfl
        | cons second rest =>
            have same : second = key := own second (List.mem_cons_of_mem _ List.mem_cons_self)
            rw [here, same, List.nodup_cons] at distinct
            exact absurd List.mem_cons_self distinct.1
      rw [here] at known
      rw [if_pos (known.mp List.mem_cons_self), here, nobody]
      rfl

theorem Shares.beginClosing (shares : Shares key number whole alone)
    (injective : Function.Injective number) (separate : Separate key whole) :
    Shares key number whole.beginClosing alone.beginClosing := by
  have cancelled : Shares key number (whole.registry.tokens.keys.foldl State.cancelKey whole)
      (alone.registry.tokens.keys.foldl State.cancelKey alone) := by
    rw [shares.cancelKeys_alone]
    exact shares.cancelKeys injective whole.registry.tokens.distinct separate
  exact ⟨⟨cancelled.settings, cancelled.clock, cancelled.ready, cancelled.sleeping,
    cancelled.finished⟩, cancelled.token, cancelled.others, cancelled.task⟩

theorem Shares.forget (shares : Shares key number whole alone) :
    Shares key number (whole.forget key) (alone.forget key) := by
  refine ⟨shares.toAligned.register _ _, shares.token, shares.others, ?_⟩
  change (alone.registry.tasks.erase key).get? key =
    ((whole.registry.tasks.erase key).get? key).map number
  rw [Table.get?_erase, Table.get?_erase, if_pos rfl, if_pos rfl]
  rfl

theorem Shares.forget_other (shares : Shares key number whole alone) {other : String}
    (different : other ≠ key) : Shares key number (whole.forget other) alone := by
  refine ⟨shares.toAligned.register _ alone.registry, shares.token, shares.others, ?_⟩
  change _ = ((whole.registry.tasks.erase other).get? key).map number
  rw [Table.get?_erase, if_neg different.symm]
  exact shares.task

/-! ### Triggers -/

/-- A number that belongs to no task of the key may be given anew. -/
theorem Aligned.renumber (aligned : Aligned key number whole alone) {other : Int → Int}
    (same : ∀ entry ∈ whole.roster, entry.1.key = key →
      other entry.1.generation = number entry.1.generation) :
    Aligned key other whole alone := by
  refine ⟨aligned.settings, aligned.clock, ?_, ?_, ?_⟩
  · rw [aligned.ready]
    apply List.filterMap_congr
    intro item present
    cases item with
    | closing => rfl
    | task task wake =>
        by_cases own : task.token.key = key
        · have kept := same _ (State.mem_roster_ready present) own
          simp only [Item.share?, if_pos own, Task.renumber, Token.renumber, kept]
        · simp only [Item.share?, if_neg own]
  · rw [aligned.sleeping]
    apply List.filterMap_congr
    intro sleeper present
    by_cases own : sleeper.task.token.key = key
    · have kept := same _ (State.mem_roster_sleeping present) own
      simp only [Sleeper.share?, if_pos own, Task.renumber, Token.renumber, kept]
    · simp only [Sleeper.share?, if_neg own]
  · rw [aligned.finished]
    apply List.filterMap_congr
    intro finished present
    by_cases own : finished.token.key = key
    · have kept := same finished.entry
        (List.mem_append_right _ (List.mem_map_of_mem present)) own
      change other finished.token.generation = number finished.token.generation at kept
      simp only [Finished.share?, if_pos own, Token.renumber, kept]
    · simp only [Finished.share?, if_neg own]

theorem Shares.schedule (shares : Shares key number whole alone)
    (injective : Function.Injective number)
    (issued : ∀ entry ∈ whole.roster, entry.1.generation < whole.registry.nextGeneration)
    (request : Request) :
    Shares key
      (Function.update number whole.registry.nextGeneration alone.registry.nextGeneration)
      (whole.schedule key request) (alone.schedule key request) := by
  have next (state : State World Note Request Inner) :
      (state.supersede key).registry.nextGeneration = state.registry.nextGeneration := by
    have kept := (State.supersede_quiet state key).nextGeneration
    rw [List.length_nil, Int.natCast_zero, Int.add_zero] at kept
    exact kept
  have aligned : Aligned key
      (Function.update number whole.registry.nextGeneration alone.registry.nextGeneration)
      (whole.supersede key) (alone.supersede key) := by
    apply (shares.toAligned.supersede injective shares.task).renumber
    intro entry member _own
    have older := issued entry ((State.supersede_quiet whole key).roster.mem_iff.mp member)
    exact Function.update_of_ne (Int.ne_of_lt older) _ _
  refine ⟨⟨aligned.settings, aligned.clock, ?_, aligned.sleeping, aligned.finished⟩, ?_, ?_, ?_⟩
  · change (alone.supersede key).ready ++ _ = ((whole.supersede key).ready ++ _).filterMap _
    rw [List.filterMap_append, aligned.ready]
    simp only [List.filterMap_cons, List.filterMap_nil, Item.share?, Token.issue, if_pos,
      Task.renumber, Token.renumber, next, Function.update_self]
  · rw [State.tokens_schedule, State.tokens_schedule, if_pos rfl, if_pos rfl]
    simp only [Option.map_some, Token.issue, Token.renumber, Function.update_self]
  · intro other different
    rw [State.tokens_schedule, if_neg different]
    exact shares.others other different
  · rw [State.tasks_schedule, State.tasks_schedule, if_pos rfl, if_pos rfl]
    simp only [Option.map_some, Function.update_self]

theorem Shares.schedule_other (shares : Shares key number whole alone)
    (separate : Separate key whole) {other : String} (different : other ≠ key)
    (request : Request) : Shares key number (whole.schedule other request) alone := by
  have aligned := shares.toAligned.supersede_other separate different
  refine ⟨⟨aligned.settings, aligned.clock, ?_, aligned.sleeping, aligned.finished⟩, ?_,
    shares.others, ?_⟩
  · change _ = ((whole.supersede other).ready ++ _).filterMap _
    rw [List.filterMap_append, aligned.ready]
    simp only [List.filterMap_cons, List.filterMap_nil, Item.share?, Token.issue,
      if_neg different, List.append_nil]
  · rw [State.tokens_schedule, if_neg different.symm]
    exact shares.token
  · rw [State.tasks_schedule, if_neg different.symm]
    exact shares.task

theorem Shares.log (shares : Shares key number whole alone) (records others : List LogRecord) :
    Shares key number (whole.log records) (alone.log others) :=
  ⟨⟨shares.settings, shares.clock, shares.ready, shares.sleeping, shares.finished⟩, shares.token,
    shares.others, shares.task⟩

theorem Shares.log_other (shares : Shares key number whole alone) (records : List LogRecord) :
    Shares key number (whole.log records) alone :=
  ⟨⟨shares.settings, shares.clock, shares.ready, shares.sleeping, shares.finished⟩, shares.token,
    shares.others, shares.task⟩

/-! ### Time -/

theorem Shares.tick (shares : Shares key number whole alone) :
    Shares key number whole.tick alone.tick := by
  have clock : alone.clock + 1 = whole.clock + 1 := by rw [shares.clock]
  have renumbered (sleeper : Sleeper Request Inner) :
      State.isDue (whole.clock + 1) ⟨sleeper.task.renumber number, sleeper.due⟩ =
        State.isDue (whole.clock + 1) sleeper := rfl
  refine ⟨⟨shares.settings, clock, ?_, ?_, shares.finished⟩, shares.token, shares.others,
    shares.task⟩
  · simp only [State.tick, List.partition_eq_filter_filter]
    rw [List.filterMap_append, shares.ready, shares.sleeping, clock]
    congr 1
    rw [List.filter_filterMap, List.map_filterMap, List.filterMap_map, List.filterMap_filter]
    congr 1
    funext sleeper
    by_cases own : sleeper.task.token.key = key
    · cases due : State.isDue (whole.clock + 1) sleeper <;>
        simp [Sleeper.share?, Item.share?, own, due, renumbered]
    · simp [Sleeper.share?, Item.share?, own]
  · rw [State.sleeping_tick, State.sleeping_tick, shares.sleeping, clock, List.filter_filterMap,
      List.filterMap_filter]
    congr 1
    funext sleeper
    by_cases own : sleeper.task.token.key = key
    · cases due : State.isDue (whole.clock + 1) sleeper <;>
        simp [Sleeper.share?, own, due, renumbered]
    · simp [Sleeper.share?, own]

/-! ### Turns -/

section

variable {behaviour : Behaviour World Note Request Inner} {task : Task Request Inner}

/-- The same comes of a turn for a task and for its share. -/
theorem Fate.place_share (number : Int → Int) (own : task.token.key = key) (fate : Fate Inner)
    (clock : Nat) :
    (fate.place clock task).items.filterMap (Item.share? key number) =
        (fate.place clock (task.renumber number)).items ∧
      (fate.place clock task).sleepers.filterMap (Sleeper.share? key number) =
        (fate.place clock (task.renumber number)).sleepers ∧
      ((fate.place clock task).endings task.token).filterMap (Finished.share? key number) =
        (fate.place clock (task.renumber number)).endings (task.token.renumber number) := by
  cases fate with
  | ends outcome =>
      refine ⟨rfl, rfl, ?_⟩
      simp only [Fate.place, Place.endings, List.filterMap_cons, List.filterMap_nil,
        Finished.share?, if_pos own]
  | waits stage ticks =>
      by_cases zero : ticks = some 0
      · refine ⟨?_, ?_, ?_⟩ <;>
          simp [Fate.place, Place.waiting, zero, Place.items, Place.sleepers, Place.endings,
            Item.share?, own, Task.renumber]
      · refine ⟨?_, ?_, ?_⟩ <;>
          simp [Fate.place, Place.waiting, zero, Place.items, Place.sleepers, Place.endings,
            Sleeper.share?, own, Task.renumber]

theorem Fate.place_unshared (number : Int → Int) (other : task.token.key ≠ key)
    (fate : Fate Inner) (clock : Nat) :
    (fate.place clock task).items.filterMap (Item.share? key number) = [] ∧
      (fate.place clock task).sleepers.filterMap (Sleeper.share? key number) = [] ∧
      ((fate.place clock task).endings task.token).filterMap (Finished.share? key number) = [] := by
  cases fate with
  | ends outcome =>
      refine ⟨rfl, rfl, ?_⟩
      simp only [Fate.place, Place.endings, List.filterMap_cons, List.filterMap_nil,
        Finished.share?, if_neg other]
  | waits stage ticks =>
      by_cases zero : ticks = some 0
      · refine ⟨?_, ?_, ?_⟩ <;>
          simp [Fate.place, Place.waiting, zero, Place.items, Place.sleepers, Place.endings,
            Item.share?, other]
      · refine ⟨?_, ?_, ?_⟩ <;>
          simp [Fate.place, Place.waiting, zero, Place.items, Place.sleepers, Place.endings,
            Sleeper.share?, other]

/-- What comes first in the queue leaves it in the share too, if it is there. -/
theorem Shares.dequeue (shares : Shares key number whole alone)
    {rest left : List (Item Request Inner)}
    (same : left = rest.filterMap (Item.share? key number)) :
    Shares key number { whole with ready := rest } { alone with ready := left } :=
  ⟨⟨shares.settings, shares.clock, same, shares.sleeping, shares.finished⟩, shares.token,
    shares.others, shares.task⟩

theorem Separate.dequeue {state : State World Note Request Inner} (separate : Separate key state)
    {item : Item Request Inner} {rest : List (Item Request Inner)}
    (ready : state.ready = item :: rest) : Separate key { state with ready := rest } := by
  intro other generation different newest entry member
  refine separate other generation different newest entry ?_
  have fewer : List.Sublist rest state.ready := by
    rw [ready]
    exact List.sublist_cons_self item rest
  exact (((fewer.filterMap _).append_right _).append_right _).subset member

theorem Shares.runTask (shares : Shares key number whole alone)
    (injective : Function.Injective number) (secluded : behaviour.Secluded)
    (calm : whole.settings.Calm) (own : task.token.key = key) (wake : Wake) :
    Shares key number (State.runTask behaviour whole task wake)
      (State.runTask behaviour alone (task.renumber number) wake) := by
  have moved := whole.runTask_fate behaviour calm task wake
  have calmAlone : alone.settings.Calm := shares.settings ▸ calm
  have movedAlone := alone.runTask_fate behaviour calmAlone (task.renumber number) wake
  have same : whole.fate behaviour task wake =
      alone.fate behaviour (task.renumber number) wake := by
    refine secluded.fate_eq shares.settings.symm ?_ ?_ wake
    · rfl
    · exact (shares.isCurrent injective own).symm
  rw [← same, shares.clock] at movedAlone
  obtain ⟨_new, _more, turn⟩ := State.runTask_turnOf behaviour whole task wake
  obtain ⟨_newAlone, _moreAlone, turnAlone⟩ :=
    State.runTask_turnOf behaviour alone (task.renumber number) wake
  obtain ⟨items, sleepers, endings⟩ :=
    Fate.place_share number own (whole.fate behaviour task wake) whole.clock
  refine ⟨⟨?_, ?_, ?_, ?_, ?_⟩, ?_, ?_, ?_⟩
  · rw [turn.settings, turnAlone.settings, shares.settings]
  · rw [turn.clock, turnAlone.clock, shares.clock]
  · rw [moved.ready, movedAlone.ready, List.filterMap_append, items, shares.ready]
  · rw [moved.sleeping, movedAlone.sleeping, List.filterMap_append, sleepers, shares.sleeping]
  · rw [moved.finished, movedAlone.finished, List.filterMap_append, endings, shares.finished]
    rfl
  · rw [turn.tokens, turnAlone.tokens]
    exact shares.token
  · rw [turnAlone.tokens]
    exact shares.others
  · rw [turn.tasks, turnAlone.tasks]
    exact shares.task

theorem Shares.runTask_other (shares : Shares key number whole alone)
    (calm : whole.settings.Calm) (other : task.token.key ≠ key) (wake : Wake) :
    Shares key number (State.runTask behaviour whole task wake) alone := by
  have moved := whole.runTask_fate behaviour calm task wake
  obtain ⟨_new, _more, turn⟩ := State.runTask_turnOf behaviour whole task wake
  obtain ⟨items, sleepers, endings⟩ :=
    Fate.place_unshared number other (whole.fate behaviour task wake) whole.clock
  refine ⟨⟨?_, ?_, ?_, ?_, ?_⟩, ?_, shares.others, ?_⟩
  · rw [turn.settings, shares.settings]
  · rw [turn.clock, shares.clock]
  · rw [moved.ready, List.filterMap_append, items, List.append_nil, shares.ready]
  · rw [moved.sleeping, List.filterMap_append, sleepers, List.append_nil, shares.sleeping]
  · rw [moved.finished, List.filterMap_append, endings, List.append_nil, shares.finished]
  · rw [turn.tokens]
    exact shares.token
  · rw [turn.tasks]
    exact shares.task

end

end

end ListingAtlas.Session
