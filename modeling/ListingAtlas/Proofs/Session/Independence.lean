import ListingAtlas.Proofs.Session.Journal
import ListingAtlas.Proofs.Session.Share
import ListingAtlas.Session.Planned
import Mathlib.Data.List.Nodup

/-!
Keys are independent. Where each call of the correlator minds its own request, a session tells the
same of a key whether or not anything is triggered, cancelled or forgotten under other keys.
-/

namespace ListingAtlas.Session

variable {World Note Request Inner : Type}

/-- Whether an operation is left when nothing is done to other keys. -/
def Operation.concerns (key : String) : Operation Request → Bool
  | .trigger other _ _ => other == key
  | .cancel other => other == key
  | .forget other => other == key
  | .close => true
  | .advance _ => true

/-! ### The share of a journal -/

def Start.share? (key : String) (number : Int → Int) (start : Start) : Option Start :=
  if start.token.key = key then some ⟨start.token.renumber number, start.clock⟩ else none

/-- Whether a journal tells the share of a key in another. -/
structure Journal.Shares (settings : Settings) (key : String) (number : Int → Int)
    (whole alone : Journal World Note Request Inner) : Prop where
  calm : settings.Calm
  share : Session.Shares key number whole.state alone.state
  accepted : alone.accepted key = (whole.accepted key).map number
  starts : alone.starts = whole.starts.filterMap (Start.share? key number)
  injective : Function.Injective number
  fresh : ∀ generation, number generation < alone.state.registry.nextGeneration
  begun : ∀ start ∈ whole.starts,
    start.token.generation < whole.state.registry.nextGeneration
  sound : Sound settings whole.history
  soundAlone : Sound settings alone.history
  registered : Registered whole.state

/-- Numbers that no task has. -/
theorem exists_numbering : ∃ number : Int → Int,
    Function.Injective number ∧ ∀ generation, number generation < 1 := by
  refine ⟨fun generation => if 0 ≤ generation then -2 * generation else 2 * generation + 1, ?_, ?_⟩
  · intro one other same
    simp only at same
    split at same <;> split at same <;> omega
  · intro generation
    simp only
    split <;> omega

theorem Journal.exists_shares_begin {settings : Settings} (calm : settings.Calm) (key : String)
    (world : World) : ∃ number, Journal.Shares settings key number
      (Journal.begin settings world : Journal World Note Request Inner)
      (Journal.begin settings world) := by
  obtain ⟨number, injective, fresh⟩ := exists_numbering
  refine ⟨number, calm, ⟨⟨rfl, rfl, rfl, rfl, rfl⟩, rfl, fun _other _different => rfl, rfl⟩, rfl,
    rfl, injective, fresh, fun _start member => absurd member List.not_mem_nil,
    sound_begin settings world, sound_begin settings world, ?_⟩
  intro other generation found
  cases found

section

variable {settings : Settings} {key : String} {number : Int → Int}
  {whole alone : Journal World Note Request Inner}

/-! ### The same account -/

theorem find?_share (injective : Function.Injective number) {generation : Int}
    {finished : List Finished}
    (own : ∀ one ∈ finished, one.token.generation = generation → one.token.key = key) :
    ((finished.filterMap (Finished.share? key number)).find? fun one =>
        one.token.generation == number generation).map Finished.outcome =
      (finished.find? fun one => one.token.generation == generation).map Finished.outcome := by
  induction finished with
  | nil => rfl
  | cons one rest ih =>
      have others := ih fun other member => own other (List.mem_cons_of_mem _ member)
      by_cases mine : one.token.key = key
      · by_cases named : one.token.generation = generation
        · simp [Finished.share?, mine, named, Token.renumber]
        · simp only [List.filterMap_cons, Finished.share?, if_pos mine, List.find?_cons,
            Token.renumber, beq_eq_false_iff_ne.mpr named,
            beq_eq_false_iff_ne.mpr (injective.ne named)]
          exact others
      · have named : one.token.generation ≠ generation := fun same =>
          mine (own one List.mem_cons_self same)
        simp only [List.filterMap_cons, Finished.share?, if_neg mine, List.find?_cons,
          beq_eq_false_iff_ne.mpr named]
        exact others

theorem deliveries_share (number : Int → Int) (finished : List Finished) :
    ((finished.filterMap (Finished.share? key number)).filterMap
        (Finished.delivery? key)).map Prod.snd =
      (finished.filterMap (Finished.delivery? key)).map Prod.snd := by
  rw [List.filterMap_filterMap, List.map_filterMap, List.map_filterMap]
  congr 1
  funext one
  by_cases mine : one.token.key = key
  · have own : (one.token.renumber number).key = key := mine
    cases kept : one.outcome.kept? <;> simp [Finished.share?, Finished.delivery?, mine, own, kept]
  · simp [Finished.share?, Finished.delivery?, mine]

theorem starts_share (injective : Function.Injective number) (generation : Int)
    (starts : List Start) :
    (starts.filterMap (Start.share? key number)).filterMap
        (Start.clockFor? key (number generation)) =
      starts.filterMap (Start.clockFor? key generation) := by
  rw [List.filterMap_filterMap]
  congr 1
  funext start
  by_cases mine : start.token.key = key
  · simp [Start.share?, Start.clockFor?, mine, Token.renumber, injective.eq_iff]
  · simp [Start.share?, Start.clockFor?, mine]

/-- What has ended under the generation of a trigger is a task of its key. -/
theorem Sound.key_of_finished {history : History World Note Request Inner}
    (sound : Sound settings history) {generation : Int}
    (accepted : .accepted key generation ∈ history.calls) {one : Finished}
    (member : one ∈ history.state.finished) (named : one.token.generation = generation) :
    one.token.key = key := by
  have ended : one.entry ∈ history.state.roster :=
    List.mem_append_right _ (List.mem_map_of_mem member)
  obtain ⟨entry, enrolled, own, same⟩ := sound.enrolled key generation accepted
  have equal : entry = one.entry := by
    refine List.inj_on_of_nodup_map sound.distinct enrolled ended ?_
    exact same.trans named.symm
  rw [← own, equal]
  rfl

theorem Journal.Shares.account_eq (shares : Journal.Shares settings key number whole alone) :
    alone.account key = whole.account key := by
  have delivered : (alone.state.deliveries key).map Prod.snd =
      (whole.state.deliveries key).map Prod.snd := by
    unfold State.deliveries
    rw [shares.share.finished]
    exact deliveries_share number whole.state.finished
  have latest : alone.state.latest key = whole.state.latest key := by
    change alone.history.state.latest key = whole.history.state.latest key
    rw [shares.soundAlone.latest, shares.sound.latest, ← List.getLast?_map, ← List.getLast?_map]
    exact congrArg List.getLast? delivered
  have cancelled : (alone.state.registry.tokens.get? key).map Token.cancelled =
      (whole.state.registry.tokens.get? key).map Token.cancelled := by
    rw [shares.share.token, Option.map_map]
    rfl
  unfold account
  rw [latest, delivered, cancelled, shares.accepted, List.map_map]
  congr 1
  apply List.map_congr_left
  intro generation member
  have starts : alone.startsOf key (number generation) = whole.startsOf key generation := by
    unfold startsOf
    rw [shares.starts]
    exact starts_share shares.injective generation whole.starts
  have outcome : alone.state.outcome? (number generation) = whole.state.outcome? generation := by
    unfold State.outcome?
    rw [shares.share.finished]
    exact find?_share shares.injective fun one present =>
      shares.sound.key_of_finished (mem_accepted.mp member) present
  simp only [Function.comp_apply, starts, outcome]

theorem State.next_le_occur (behaviour : Behaviour World Note Request Inner)
    (state : State World Note Request Inner) (occurrence : Occurrence World Request) :
    state.registry.nextGeneration ≤ (state.occur behaviour occurrence).registry.nextGeneration := by
  cases spoken : speaker? state occurrence with
  | none => exact (occur_callOnly behaviour state occurrence spoken).next_le
  | some task =>
      obtain ⟨position, wake, rfl, queued⟩ := speaker?_eq_some spoken
      obtain ⟨new, more, turn⟩ := state.occur_turnOf behaviour queued
      exact Int.le_of_eq turn.nextGeneration.symm

/-! ### What is done to other keys -/

namespace Journal

variable {behaviour : Behaviour World Note Request Inner}

/-- The correlators that have begun belong to triggers of the past. -/
theorem Shares.begun_extend (shares : Shares settings key number whole alone)
    (occurrence : Occurrence World Request) :
    ∀ start ∈ (whole.extend behaviour occurrence).starts, start.token.generation <
      (whole.extend behaviour occurrence).state.registry.nextGeneration := by
  have later := State.next_le_occur behaviour whole.state occurrence
  intro start member
  refine Int.lt_of_lt_of_le ?_ later
  rcases List.mem_append.mp member with past | new
  · exact shares.begun start past
  · obtain ⟨_position, _task, _turn, queued, _stage, _current, _silent, rfl⟩ :=
      State.start?_eq_some.mp (Option.mem_toList.mp new)
    exact shares.sound.issued _ (State.mem_roster_ready (List.mem_of_getElem? queued))

/-- What occurs to the whole and not to the share. -/
theorem Shares.skip (shares : Shares settings key number whole alone)
    {occurrence : Occurrence World Request}
    (share : Session.Shares key number (whole.state.occur behaviour occurrence) alone.state)
    (silent : (callOf? whole.state occurrence).toList.filterMap (Call.acceptedFor? key) = [])
    (still : (whole.state.start? occurrence).toList.filterMap (Start.share? key number) = []) :
    Shares settings key number (whole.extend behaviour occurrence) alone where
  calm := shares.calm
  share := share
  accepted := by
    rw [extend_accepted, silent, List.append_nil]
    exact shares.accepted
  starts := by
    rw [extend_starts, List.filterMap_append, still, List.append_nil]
    exact shares.starts
  injective := shares.injective
  fresh := shares.fresh
  begun := shares.begun_extend occurrence
  sound := shares.sound.extend behaviour occurrence
  soundAlone := shares.soundAlone
  registered := shares.registered.extend shares.sound behaviour occurrence

theorem Shares.separate (shares : Shares settings key number whole alone) :
    Separate key whole.state :=
  shares.registered.separate key

theorem Shares.calm_whole (shares : Shares settings key number whole alone) :
    whole.state.settings.Calm :=
  shares.sound.configured.symm ▸ shares.calm

theorem Shares.calm_alone (shares : Shares settings key number whole alone) :
    alone.state.settings.Calm :=
  shares.soundAlone.configured.symm ▸ shares.calm

theorem Shares.trigger_other (shares : Shares settings key number whole alone) {other : String}
    (different : other ≠ key) (source : Path) (request : Request) :
    Shares settings key number (whole.extend behaviour (.trigger other source request)) alone := by
  refine shares.skip ?_ ?_ rfl
  · simp only [State.occur, State.trigger]
    split
    · exact shares.share.schedule_other shares.separate different request
    · exact shares.share.log_other _
  · simp only [callOf?]
    split
    · simp [Call.acceptedFor?, different]
    · rfl

theorem Shares.cancel_other (shares : Shares settings key number whole alone) {other : String}
    (different : other ≠ key) :
    Shares settings key number (whole.extend behaviour (.cancel other)) alone :=
  shares.skip (shares.share.cancelKey_other shares.separate different) rfl rfl

theorem Shares.forget_other (shares : Shares settings key number whole alone) {other : String}
    (different : other ≠ key) :
    Shares settings key number (whole.extend behaviour (.forget other)) alone :=
  shares.skip (shares.share.forget_other different) rfl rfl

/-! ### What is done to both -/

/-- What occurs to both, and is no trigger of the key. -/
theorem Shares.both (shares : Shares settings key number whole alone)
    {occurrence : Occurrence World Request}
    (share : Session.Shares key number (whole.state.occur behaviour occurrence)
      (alone.state.occur behaviour occurrence))
    (silent : (callOf? whole.state occurrence).toList.filterMap (Call.acceptedFor? key) = [])
    (silentAlone : (callOf? alone.state occurrence).toList.filterMap (Call.acceptedFor? key) = [])
    (starts : (alone.state.start? occurrence).toList =
      (whole.state.start? occurrence).toList.filterMap (Start.share? key number)) :
    Shares settings key number (whole.extend behaviour occurrence)
      (alone.extend behaviour occurrence) where
  calm := shares.calm
  share := share
  accepted := by
    rw [extend_accepted, extend_accepted, silent, silentAlone, List.append_nil, List.append_nil]
    exact shares.accepted
  starts := by
    rw [extend_starts, extend_starts, List.filterMap_append, starts, shares.starts]
  injective := shares.injective
  fresh := fun generation =>
    Int.lt_of_lt_of_le (shares.fresh generation) (State.next_le_occur behaviour _ occurrence)
  begun := shares.begun_extend occurrence
  sound := shares.sound.extend behaviour occurrence
  soundAlone := shares.soundAlone.extend behaviour occurrence
  registered := shares.registered.extend shares.sound behaviour occurrence

theorem Shares.cancel (shares : Shares settings key number whole alone) :
    Shares settings key number (whole.extend behaviour (.cancel key))
      (alone.extend behaviour (.cancel key)) :=
  shares.both (shares.share.cancelKey shares.injective) rfl rfl rfl

theorem Shares.forget (shares : Shares settings key number whole alone) :
    Shares settings key number (whole.extend behaviour (.forget key))
      (alone.extend behaviour (.forget key)) :=
  shares.both shares.share.forget rfl rfl rfl

theorem Shares.tick (shares : Shares settings key number whole alone) :
    Shares settings key number (whole.extend behaviour .tick) (alone.extend behaviour .tick) :=
  shares.both shares.share.tick rfl rfl rfl

theorem Shares.queueClose (shares : Shares settings key number whole alone) :
    Shares settings key number (whole.extend behaviour .queueClose)
      (alone.extend behaviour .queueClose) := by
  refine shares.both ?_ rfl rfl rfl
  refine ⟨⟨shares.share.settings, shares.share.clock, ?_, shares.share.sleeping,
    shares.share.finished⟩, shares.share.token, shares.share.others, shares.share.task⟩
  change alone.state.ready ++ _ = (whole.state.ready ++ _).filterMap _
  rw [List.filterMap_append, shares.share.ready]
  rfl

theorem Shares.accepted_lt (shares : Shares settings key number whole alone) {generation : Int}
    (member : generation ∈ whole.accepted key) :
    generation < whole.state.registry.nextGeneration := by
  obtain ⟨entry, enrolled, _own, named⟩ :=
    shares.sound.enrolled key generation (mem_accepted.mp member)
  rw [← named]
  exact shares.sound.issued entry enrolled

theorem injective_update (injective : Function.Injective number) (generation : Int) {value : Int}
    (fresh : ∀ other, number other ≠ value) :
    Function.Injective (Function.update number generation value) := by
  intro one other same
  simp only [Function.update_apply] at same
  split at same <;> split at same
  · rename_i here there
    rw [here, there]
  · exact absurd same.symm (fresh other)
  · exact absurd same (fresh one)
  · exact injective same

/-- A trigger of the key that is accepted gives the next number to the next generation. -/
theorem Shares.schedule (shares : Shares settings key number whole alone) {source : Path}
    (accepted : State.accepts source = true) (request : Request) :
    Shares settings key
      (Function.update number whole.state.registry.nextGeneration
        alone.state.registry.nextGeneration)
      (whole.extend behaviour (.trigger key source request))
      (alone.extend behaviour (.trigger key source request)) := by
  have kept (generation : Int) (older : generation < whole.state.registry.nextGeneration) :
      Function.update number whole.state.registry.nextGeneration
        alone.state.registry.nextGeneration generation = number generation :=
    Function.update_of_ne (Int.ne_of_lt older) _ _
  have scheduled (state : State World Note Request Inner) :
      state.occur behaviour (.trigger key source request) = state.schedule key request := by
    simp only [State.occur, State.trigger, if_pos accepted]
  have called (state : State World Note Request Inner) :
      (callOf? state (.trigger key source request : Occurrence World Request)).toList.filterMap
        (Call.acceptedFor? key) = [state.registry.nextGeneration] := by
    simp [callOf?, accepted, Call.acceptedFor?]
  have next : (alone.extend behaviour (.trigger key source request)).state.registry.nextGeneration =
      alone.state.registry.nextGeneration + 1 := by
    rw [extend_state, scheduled]
    exact (alone.state.schedule_quiet key request).nextGeneration
  refine ⟨shares.calm, ?_, ?_, ?_, ?_, ?_, shares.begun_extend _, shares.sound.extend behaviour _,
    shares.soundAlone.extend behaviour _, shares.registered.extend shares.sound behaviour _⟩
  · rw [extend_state, extend_state, scheduled, scheduled]
    exact shares.share.schedule shares.injective shares.sound.issued request
  · rw [extend_accepted, extend_accepted, called, called, List.map_append, List.map_singleton,
      Function.update_self, shares.accepted]
    have renamed : (whole.accepted key).map number = (whole.accepted key).map _ :=
      List.map_congr_left fun generation member =>
        (kept generation (shares.accepted_lt member)).symm
    rw [renamed]
  · change alone.starts ++ [] = (whole.starts ++ []).filterMap _
    rw [List.append_nil, List.append_nil, shares.starts]
    apply List.filterMap_congr
    intro start member
    simp only [Start.share?, Token.renumber, kept _ (shares.begun start member)]
  · exact injective_update shares.injective _ fun other => Int.ne_of_lt (shares.fresh other)
  · intro generation
    rw [next, Function.update_apply]
    split
    · exact Int.lt_succ _
    · exact Int.lt_trans (shares.fresh generation) (Int.lt_succ _)

theorem Shares.trigger (shares : Shares settings key number whole alone) (source : Path)
    (request : Request) :
    ∃ other, Shares settings key other (whole.extend behaviour (.trigger key source request))
      (alone.extend behaviour (.trigger key source request)) := by
  by_cases accepted : State.accepts source = true
  · exact ⟨_, shares.schedule accepted request⟩
  · refine ⟨number, shares.both ?_ ?_ ?_ rfl⟩
    · simp only [State.occur, State.trigger, if_neg accepted]
      exact shares.share.log _ _
    · simp only [callOf?, if_neg accepted]
      rfl
    · simp only [callOf?, if_neg accepted]
      rfl

/-! ### Turns -/

theorem Shares.turn_closing (shares : Shares settings key number whole alone)
    {rest : List (Item Request Inner)} (ready : whole.state.ready = .closing :: rest) :
    Shares settings key number (whole.extend behaviour (.turn 0))
      (alone.extend behaviour (.turn 0)) := by
  have readyAlone : alone.state.ready = .closing :: rest.filterMap (Item.share? key number) := by
    rw [shares.share.ready, ready]
    rfl
  refine shares.both ?_ ?_ ?_ ?_
  · rw [State.occur_closing behaviour ready, State.occur_closing behaviour readyAlone]
    exact (shares.share.dequeue rfl).beginClosing shares.injective (shares.separate.dequeue ready)
  · simp [callOf?, ready, Call.acceptedFor?]
  · simp [callOf?, readyAlone, Call.acceptedFor?]
  · simp [State.start?, ready, readyAlone]

section

variable {task : Task Request Inner} {wake : Wake} {rest : List (Item Request Inner)}

theorem Shares.turn_own (shares : Shares settings key number whole alone)
    (secluded : behaviour.Secluded) (ready : whole.state.ready = .task task wake :: rest)
    (own : task.token.key = key) :
    Shares settings key number (whole.extend behaviour (.turn 0))
      (alone.extend behaviour (.turn 0)) := by
  have readyAlone : alone.state.ready =
      .task (task.renumber number) wake :: rest.filterMap (Item.share? key number) := by
    rw [shares.share.ready, ready]
    simp only [List.filterMap_cons, Item.share?, if_pos own]
  have current : alone.state.registry.isCurrent (task.renumber number).token =
      whole.state.registry.isCurrent task.token :=
    shares.share.isCurrent shares.injective own
  refine shares.both ?_ ?_ ?_ ?_
  · rw [State.occur_task behaviour ready, State.occur_task behaviour readyAlone]
    have dequeued := shares.share.dequeue (Eq.refl (rest.filterMap (Item.share? key number)))
    exact dequeued.runTask shares.injective secluded shares.calm_whole own wake
  · simp [callOf?, ready]
  · simp [callOf?, readyAlone]
  · cases wake with
    | cancelled => simp [State.start?, ready, readyAlone]
    | elapsed =>
        have silent : whole.state.raised? Session.begun = none :=
          shares.calm_whole.raised?_eq_none ..
        have silentAlone : alone.state.raised? Session.begun = none :=
          shares.calm_alone.raised?_eq_none ..
        simp only [State.start?, ready, readyAlone, List.getElem?_cons_zero, current,
          shares.share.clock, silent, silentAlone, Option.isNone_none, Bool.and_true]
        by_cases begins : (task.stage.isDebouncing &&
            whole.state.registry.isCurrent task.token) = true
        · simp [Task.renumber, Start.share?, own, begins]
        · simp [Task.renumber, begins]

theorem Shares.turn_other (shares : Shares settings key number whole alone)
    (ready : whole.state.ready = .task task wake :: rest) (other : task.token.key ≠ key) :
    Shares settings key number (whole.extend behaviour (.turn 0)) alone := by
  have unseen : alone.state.ready = rest.filterMap (Item.share? key number) := by
    rw [shares.share.ready, ready]
    simp only [List.filterMap_cons, Item.share?, if_neg other]
  refine shares.skip ?_ ?_ ?_
  · rw [State.occur_task behaviour ready]
    exact (shares.share.dequeue unseen).runTask_other shares.calm_whole other wake
  · simp [callOf?, ready]
  · cases wake with
    | cancelled => simp [State.start?, ready]
    | elapsed =>
        simp only [State.start?, ready, List.getElem?_cons_zero]
        split
        · simp [Start.share?, other]
        · rfl

end

/-- A turn of the whole is one of the share, or the share has no part in it. -/
theorem Shares.turn (shares : Shares settings key number whole alone)
    (secluded : behaviour.Secluded) :
    Shares settings key number (whole.extend behaviour (.turn 0))
        (alone.extend behaviour (.turn 0)) ∨
      Shares settings key number (whole.extend behaviour (.turn 0)) alone := by
  cases ready : whole.state.ready with
  | nil =>
      rw [extend_turn_of_ready_nil ready]
      exact Or.inr shares
  | cons item rest =>
      cases item with
      | closing => exact Or.inl (shares.turn_closing ready)
      | task task wake =>
          by_cases own : task.token.key = key
          · exact Or.inl (shares.turn_own secluded ready own)
          · exact Or.inr (shares.turn_other ready own)

/-! ### Settling -/

/-- The share settles in the turns that are its own. -/
theorem Shares.turns (secluded : behaviour.Secluded) (count : Nat)
    (shares : Shares settings key number whole alone) :
    ∃ fewer, Shares settings key number (turns behaviour count whole)
      (turns behaviour fewer alone) := by
  induction count generalizing whole alone with
  | zero => exact ⟨0, shares⟩
  | succ count ih =>
      rcases shares.turn secluded with both | skipped
      · obtain ⟨fewer, rest⟩ := ih both
        exact ⟨fewer + 1, rest⟩
      · exact ih skipped

variable {correlator : Correlator World Note Request Inner}

theorem Shares.settle (secluded : correlator.toBehaviour.Secluded)
    (shares : Shares settings key number whole alone) :
    Shares settings key number (whole.settle correlator) (alone.settle correlator) := by
  obtain ⟨fewer, settled⟩ :=
    shares.turns secluded (State.workload correlator whole.state)
  rw [← settle_eq_turns] at settled
  have nothing : (Journal.turns correlator.toBehaviour fewer alone).state.ready = [] := by
    rw [settled.share.ready, settle_state, State.settle_ready]
    rfl
  have same : alone.settle correlator = Journal.turns correlator.toBehaviour fewer alone := by
    rw [settle_eq_turns]
    refine turns_eq_of_ready_nil ?_ nothing
    rw [← settle_eq_turns, settle_state, State.settle_ready]
  rw [same]
  exact settled

/-! ### Operations -/

theorem Shares.advance (secluded : correlator.toBehaviour.Secluded) (ticks : Nat)
    (shares : Shares settings key number whole alone) :
    Shares settings key number (whole.perform correlator (.advance ticks))
      (alone.perform correlator (.advance ticks)) := by
  induction ticks generalizing whole alone with
  | zero => exact shares.settle secluded
  | succ ticks ih =>
      rw [perform_advance, perform_advance]
      exact ih (shares.settle secluded).tick

/-- An operation that concerns the key is one of its share too. -/
theorem Shares.perform_own (secluded : correlator.toBehaviour.Secluded)
    (shares : Shares settings key number whole alone) {operation : Operation Request}
    (own : operation.concerns key = true) :
    ∃ other, Shares settings key other (whole.perform correlator operation)
      (alone.perform correlator operation) := by
  cases operation with
  | trigger name source request =>
      rw [beq_iff_eq.mp own]
      exact shares.trigger source request
  | cancel name =>
      rw [beq_iff_eq.mp own]
      exact ⟨number, shares.cancel⟩
  | forget name =>
      rw [beq_iff_eq.mp own]
      exact ⟨number, shares.forget⟩
  | close => exact ⟨number, shares.queueClose.settle secluded⟩
  | advance ticks => exact ⟨number, shares.advance secluded ticks⟩

theorem Shares.perform_other (shares : Shares settings key number whole alone)
    {operation : Operation Request} (other : operation.concerns key = false) :
    Shares settings key number (whole.perform correlator operation) alone := by
  cases operation with
  | trigger name source request => exact shares.trigger_other (beq_eq_false_iff_ne.mp other) _ _
  | cancel name => exact shares.cancel_other (beq_eq_false_iff_ne.mp other)
  | forget name => exact shares.forget_other (beq_eq_false_iff_ne.mp other)
  | close => cases other
  | advance ticks => cases other

theorem Shares.performAll (secluded : correlator.toBehaviour.Secluded)
    (script : List (Operation Request)) (shares : Shares settings key number whole alone) :
    ∃ other, Shares settings key other (script.foldl (perform correlator) whole)
      ((script.filter (Operation.concerns key)).foldl (perform correlator) alone) := by
  induction script generalizing number whole alone with
  | nil => exact ⟨number, shares⟩
  | cons operation script ih =>
      cases concerned : operation.concerns key with
      | true =>
          obtain ⟨other, next⟩ := shares.perform_own secluded concerned
          rw [List.filter_cons_of_pos concerned]
          exact ih next
      | false =>
          rw [List.filter_cons_of_neg (Bool.eq_false_iff.mp concerned)]
          exact ih (shares.perform_other concerned)

end Journal

end

/-- Where each call of the correlator minds its own request, a session gives the same account of a
key as one to whose other keys nothing is done. The script is any, so that the accounts agree after
each operation that is left. -/
theorem account_alone {correlator : Correlator World Note Request Inner}
    (secluded : correlator.toBehaviour.Secluded) (debounce : Option Span)
    (statuses results : Bool) (world : World) (script : List (Operation Request)) (key : String) :
    (Journal.ofScript correlator (.recording debounce statuses results) world script).account key =
      (Journal.ofScript correlator (.recording debounce statuses results) world
        (script.filter (Operation.concerns key))).account key := by
  have calm := Settings.recording_calm debounce statuses results
  have initially : ∃ number, Journal.Shares (.recording debounce statuses results) key number
      (Journal.begin (.recording debounce statuses results) world :
        Journal World Note Request Inner)
      (Journal.begin (.recording debounce statuses results) world) :=
    Journal.exists_shares_begin calm key world
  obtain ⟨_number, shares⟩ := initially
  obtain ⟨_other, shares⟩ := shares.performAll secluded script
  exact shares.account_eq.symm

theorem planned_secluded (World : Type) : (planned World).toBehaviour.Secluded where
  start := fun _world _other _plan _token _another _sameKey => rfl
  resume := by
    intro world other inner wake
    cases inner <;> cases wake <;> rfl

/-- One key is triggered twice, while another is triggered, cancelled and forgotten. -/
theorem account_alone_of_two :
    let settings := Settings.recording (some (.ticks 2)) true true
    let source : Path := { root := "", parts := ["a.c"] }
    let fresh : Correlation := { sourceName := "a.c", entries := [] }
    let plan : Plan :=
      { name := "plan", delay := .ticks 2, ending := .result fresh, afterCancel := none }
    let script : List (Operation Plan) :=
      [.trigger "b" source plan, .trigger "a" source plan, .advance 3, .cancel "b",
        .trigger "a" source plan, .trigger "b" source plan, .forget "b", .advance 9]
    let alone : List (Operation Plan) :=
      [.trigger "a" source plan, .advance 3, .trigger "a" source plan, .advance 9]
    (Journal.ofScript (planned Unit) settings () script).account "a" =
        (Journal.ofScript (planned Unit) settings () alone).account "a" ∧
      (Journal.ofScript (planned Unit) settings () alone).account "a" =
        { latest := some fresh
          cancelled := some false
          delivered := [fresh]
          triggers := [([2], some .cancelled), ([5], some (.delivered fresh))] } := by
  intro settings source fresh plan script alone
  refine ⟨account_alone (planned_secluded Unit) (some (.ticks 2)) true true () script "a", ?_⟩
  decide +kernel

end ListingAtlas.Session
