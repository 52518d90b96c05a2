import ListingAtlas.Proofs.Session.Calls

/-!
Only the newest trigger of a key is heard. Whatever a correlator does and in whatever order things
occur, a status, a result or a call-back comes from the turn of a task whose trigger still counts;
each trigger says at most one word; and what is kept for a key is what was delivered last.
-/

namespace ListingAtlas.Session

variable {World Note Request Inner : Type}

/-! ### Words and deliveries -/

/-- What may be said of a trigger of a key as long as the session lasts. -/
inductive Word (key : String) : List (Event Note) → Prop
  | silent : Word key []
  | begun : Word key [begun]
  | failed (failure : Failure) : Word key [begun, failing failure]
  /-- The call-back that was told the status did not return. -/
  | interrupted (correlation : Correlation) : Word key [begun, keeping correlation]
  | delivered (correlation : Correlation) : Word key (begun :: delivering key correlation)

theorem Said.isWord {key : String} {phase : Phase} {said : List (Event Note)}
    (ending : Said key phase said) : Word key said := by
  cases ending with
  | waiting => exact .silent
  | working => exact .begun
  | silent => exact .silent
  | abandoned => exact .begun
  | failed _outcome _nothing failure => exact .failed failure
  | interrupted correlation => exact .interrupted correlation
  | delivered => exact .delivered _

/-- Everything that was said of a trigger, in order. -/
def spokenOf (generation : Int) (ledger : List (Record Note)) : List (Event Note) :=
  (ledger.filter fun record => record.generation == generation && record.event.isSpoken).map
    Record.event

/-- The result for a key that an event reports. -/
def Event.resultFor? (key : String) : Event Note → Option Correlation
  | .result other correlation => if other = key then some correlation else none
  | _ => none

def Record.delivery? (key : String) (record : Record Note) : Option (Int × Correlation) :=
  (record.event.resultFor? key).map fun correlation => (record.generation, correlation)

def Finished.delivery? (key : String) (finished : Finished) : Option (Int × Correlation) :=
  if finished.token.key = key then
    finished.outcome.kept?.map fun correlation => (finished.token.generation, correlation)
  else none

namespace State

/-- The results delivered for a key, each with its trigger, in the order of delivery. A result is
delivered when it is kept as the latest of its key, whether or not a call-back is told of it. -/
def deliveries (state : State World Note Request Inner) (key : String) :
    List (Int × Correlation) :=
  state.finished.filterMap (Finished.delivery? key)

theorem mem_deliveries {state : State World Note Request Inner} {key : String}
    {delivery : Int × Correlation} (member : delivery ∈ state.deliveries key) :
    ∃ entry ∈ state.finished.map Finished.entry, entry.1.generation = delivery.1 := by
  obtain ⟨finished, present, made⟩ := List.mem_filterMap.mp member
  refine ⟨finished.entry, List.mem_map_of_mem present, ?_⟩
  unfold Finished.delivery? at made
  split at made
  · obtain ⟨correlation, _kept, rfl⟩ := Option.map_eq_some_iff.mp made
    rfl
  · cases made

def latest (state : State World Note Request Inner) (key : String) : Option Correlation :=
  state.registry.results.get? key

end State

/-- Between two states the session said nothing and kept nothing new. -/
structure Unheard (before after : State World Note Request Inner) : Prop where
  status : after.status = before.status
  detail : after.detail = before.detail
  latest : ∀ key, after.latest key = before.latest key
  events : ∃ notes : List Note, after.events = before.events ++ notes.map Event.note

/-! ### Ledgers -/

theorem spokenOf_append (generation : Int) (first second : List (Record Note)) :
    spokenOf generation (first ++ second) =
      spokenOf generation first ++ spokenOf generation second := by
  unfold spokenOf
  rw [List.filter_append, List.map_append]

theorem spokenOf_eq_nil {generation : Int} {ledger : List (Record Note)}
    (absent : ∀ record ∈ ledger, record.generation ≠ generation) :
    spokenOf generation ledger = [] := by
  unfold spokenOf
  rw [List.map_eq_nil_iff, List.filter_eq_nil_iff]
  intro record member
  simp [absent record member]

/-- The records of a turn are its events, all on behalf of the task whose turn it is. -/
def recordsOf (generation : Int) (clock : Nat) (events : List (Event Note)) :
    List (Record Note) :=
  events.map fun event => { generation, clock, event }

theorem recordsOf_append (generation : Int) (clock : Nat) (first second : List (Event Note)) :
    recordsOf generation clock (first ++ second) =
      recordsOf generation clock first ++ recordsOf generation clock second :=
  List.map_append

theorem spokenOf_recordsOf (generation : Int) (clock : Nat) (events : List (Event Note)) :
    spokenOf generation (recordsOf generation clock events) =
      events.filter Event.isSpoken := by
  have named (event : Event Note) :
      ((generation == generation) && event.isSpoken) = event.isSpoken := by simp
  unfold spokenOf recordsOf
  rw [List.filter_map, List.map_map]
  simp only [Function.comp_def, named, List.map_id']

theorem map_event_recordsOf (generation : Int) (clock : Nat) (events : List (Event Note)) :
    (recordsOf generation clock events).map Record.event = events := by
  unfold recordsOf
  rw [List.map_map]
  exact List.map_id events

theorem delivery?_recordsOf (key : String) (generation : Int) (clock : Nat)
    (events : List (Event Note)) :
    (recordsOf generation clock events).filterMap (Record.delivery? key) =
      ((events.filter Event.isSpoken).filterMap (Event.resultFor? key)).map
        fun correlation => (generation, correlation) := by
  unfold recordsOf
  rw [List.filterMap_map, List.map_filterMap, List.filterMap_filter]
  congr 1
  funext event
  cases event with
  | status status message => rfl
  | result other correlation => rfl
  | note note => rfl

theorem recordsBetween_some {before after : State World Note Request Inner}
    (task : Task Request Inner) {events : List (Event Note)}
    (appended : after.events = before.events ++ events) :
    recordsBetween before after (some task) =
      recordsOf task.token.generation before.clock events := by
  unfold recordsBetween recordsOf
  rw [appended, List.drop_left]

/-! ### What is kept in a phase -/

theorem Said.results_sublist {key : String} {phase : Phase} {said : List (Event Note)}
    (ending : Said key phase said) (other : String) :
    (said.filterMap (Event.resultFor? other)).Sublist
      (if key = other then phase.kept?.toList else []) := by
  cases ending with
  | delivered outcome kept =>
      by_cases same : key = other
      · simp [begun, delivering, keeping, List.filterMap_cons, Event.resultFor?, Phase.kept?, kept,
          same]
      · simp [begun, delivering, keeping, List.filterMap_cons, Event.resultFor?, same]
  | _ => simp [begun, failing, keeping, Event.resultFor?, List.filterMap_cons]

/-- Where the result that was kept is told, it is the only one. -/
theorem Said.results_of_told {key : String} {phase : Phase} {said : List (Event Note)}
    (ending : Said key phase said)
    (told : ∀ correlation, phase.kept? = some correlation → .result key correlation ∈ said)
    (other : String) :
    said.filterMap (Event.resultFor? other) =
      if key = other then phase.kept?.toList else [] := by
  cases ending with
  | delivered outcome kept =>
      by_cases same : key = other
      · simp [begun, delivering, keeping, List.filterMap_cons, Event.resultFor?, Phase.kept?, kept,
          same]
      · simp [begun, delivering, keeping, List.filterMap_cons, Event.resultFor?, same]
  | interrupted correlation escape =>
      have within := told correlation rfl
      simp [begun, keeping] at within
  | waiting => simp [Phase.kept?]
  | working => simp [Phase.kept?, begun, Event.resultFor?]
  | silent outcome nothing => simp [Phase.kept?, nothing]
  | abandoned outcome nothing => simp [Phase.kept?, nothing, begun, Event.resultFor?]
  | failed outcome nothing failure =>
      simp [Phase.kept?, nothing, begun, failing, Event.resultFor?]

theorem ending_deliveries (token : Token) (phase : Phase) (key : String) :
    (phase.ending token).filterMap (Finished.delivery? key) =
      if token.key = key then
        phase.kept?.toList.map fun correlation => (token.generation, correlation)
      else [] := by
  cases phase with
  | ended outcome =>
      by_cases same : token.key = key
      · cases kept : outcome.kept? <;>
          simp [Phase.ending, Finished.delivery?, Phase.kept?, same, kept]
      · simp [Phase.ending, Finished.delivery?, same]
  | _ => simp [Phase.ending, Phase.kept?]

theorem store_get? (key other : String) (results : Table String Correlation) (phase : Phase) :
    (phase.store key results).get? other =
      if other = key then phase.kept?.or (results.get? other) else results.get? other := by
  unfold Phase.store
  cases phase.kept? with
  | none => simp
  | some correlation => exact Table.get?_insert ..

/-! ### What holds in every history -/

structure Sound (settings : Settings) (history : History World Note Request Inner) : Prop where
  configured : history.state.settings = settings
  distinct : (history.state.roster.map fun entry => entry.1.generation).Nodup
  issued : ∀ entry ∈ history.state.roster,
    entry.1.generation < history.state.registry.nextGeneration
  accepted : ∀ entry ∈ history.state.roster,
    .accepted entry.1.key entry.1.generation ∈ history.calls
  enrolled : ∀ key generation, .accepted key generation ∈ history.calls →
    ∃ entry ∈ history.state.roster, entry.1.key = key ∧ entry.1.generation = generation
  recorded : ∀ record ∈ history.ledger,
    ∃ entry ∈ history.state.roster, entry.1.generation = record.generation
  newest : ∀ key token, history.state.registry.tokens.get? key = some token →
    IsNewest key token.generation history.calls
  said : ∀ entry ∈ history.state.roster, ∃ said, Said entry.1.key entry.2 said ∧
    spokenOf entry.1.generation history.ledger = said
  overtaken : ∀ key generation, IsNewest key generation history.calls →
    ∀ delivery ∈ history.state.deliveries key, delivery.1 ≤ generation
  increasing : ∀ key, ((history.state.deliveries key).map Prod.fst).Pairwise (· < ·)
  latest : ∀ key,
    history.state.latest key = (history.state.deliveries key).getLast?.map Prod.snd
  complete : history.state.events = history.ledger.map Record.event
  told : ∀ key,
    (history.ledger.filterMap (Record.delivery? key)).Sublist (history.state.deliveries key)
  reported : settings.StatusCalm → ∀ key,
    history.ledger.filterMap (Record.delivery? key) = history.state.deliveries key

theorem sound_begin (settings : Settings) (world : World) :
    Sound settings (History.begin settings world : History World Note Request Inner) where
  configured := rfl
  distinct := List.nodup_nil
  issued := by simp [History.begin, State.initial, State.roster]
  accepted := by simp [History.begin, State.initial, State.roster]
  enrolled := by simp [History.begin]
  recorded := by simp [History.begin]
  newest := by
    intro key token found
    cases found
  said := by simp [History.begin, State.initial, State.roster]
  overtaken := by simp [History.begin, State.initial, State.deliveries]
  increasing := by simp [History.begin, State.initial, State.deliveries]
  latest := fun key => rfl
  complete := rfl
  told := fun _key => List.Sublist.refl _
  reported := fun _ key => rfl

/-- A token that is current belongs to the newest trigger of its key. -/
theorem Sound.isNewest {settings : Settings} {history : History World Note Request Inner}
    (sound : Sound settings history) {token : Token}
    (current : history.state.registry.isCurrent token = true) :
    IsNewest token.key token.generation history.calls := by
  unfold Registry.isCurrent at current
  split at current
  · rename_i newest found
    rw [Bool.and_eq_true, beq_iff_eq] at current
    rw [← current.1]
    exact sound.newest token.key newest found
  · cases current

/-! ### Calls and time -/

theorem isNewest_tokenOf {key : String} {calls : List Call} {call : Call} {before : Option Token}
    (newest : ∀ token, before = some token → IsNewest key token.generation calls) {token : Token}
    (now : call.tokenOf key before = some token) :
    IsNewest key token.generation (calls ++ [call]) := by
  cases call with
  | accepted other generation =>
      simp only [Call.tokenOf] at now
      by_cases same : key = other
      · rw [if_pos same, Option.some.injEq] at now
        subst same
        rw [← now]
        exact isNewest_append_accepted key generation calls
      · rw [if_neg same] at now
        exact (newest token now).append fun ends => same ends.symm
  | cancelled other =>
      simp only [Call.tokenOf] at now
      by_cases same : key = other
      · rw [if_pos same] at now
        cases now
      · rw [if_neg same] at now
        exact (newest token now).append fun ends => same ends.symm
  | closed => cases now

theorem Call.mem_added {call : Call} {entry : Token × Phase} (added : entry ∈ call.added) :
    call = .accepted entry.1.key entry.1.generation ∧ entry.2 = .waiting := by
  cases call with
  | accepted key generation =>
      rw [Call.added, List.mem_singleton] at added
      rw [added]
      exact ⟨rfl, rfl⟩
  | _ => cases added

theorem Call.added_accepted (key : String) (generation : Int) :
    (Token.issue key generation, Phase.waiting) ∈ (Call.accepted key generation).added :=
  List.mem_singleton.mpr rfl

theorem CallOnly.fresh {call : Option Call} {before after : State World Note Request Inner}
    (only : CallOnly call before after) {entry : Token × Phase}
    (added : entry ∈ call.toList.flatMap Call.added) :
    entry.1.generation = before.registry.nextGeneration := by
  obtain ⟨made, present, member⟩ := List.mem_flatMap.mp added
  rw [Option.mem_toList] at present
  have accepted := (Call.mem_added member).1
  rw [accepted] at present
  exact only.numbered _ _ present

theorem CallOnly.next_le {call : Option Call} {before after : State World Note Request Inner}
    (only : CallOnly call before after) :
    before.registry.nextGeneration ≤ after.registry.nextGeneration := by
  rw [only.nextGeneration]
  omega

theorem CallOnly.next_lt {call : Option Call} {before after : State World Note Request Inner}
    (only : CallOnly call before after) {entry : Token × Phase}
    (added : entry ∈ call.toList.flatMap Call.added) :
    before.registry.nextGeneration < after.registry.nextGeneration := by
  have some := List.length_pos_of_mem added
  rw [only.nextGeneration]
  omega

theorem CallOnly.distinct {call : Option Call} {before after : State World Note Request Inner}
    (only : CallOnly call before after)
    (distinct : (before.roster.map fun entry => entry.1.generation).Nodup)
    (issued : ∀ entry ∈ before.roster, entry.1.generation < before.registry.nextGeneration) :
    (after.roster.map fun entry => entry.1.generation).Nodup := by
  rw [(only.roster.map _).nodup_iff, List.map_append, List.nodup_append]
  refine ⟨?_, distinct, ?_⟩
  · cases call with
    | none => exact List.nodup_nil
    | some call => cases call <;> simp [Call.added]
  · intro added new kept old same
    obtain ⟨entry, member, rfl⟩ := List.mem_map.mp new
    obtain ⟨other, present, rfl⟩ := List.mem_map.mp old
    have bound := issued other present
    have number := only.fresh member
    omega

theorem CallOnly.deliveries {call : Option Call} {before after : State World Note Request Inner}
    (only : CallOnly call before after) (key : String) :
    after.deliveries key = before.deliveries key := by
  unfold State.deliveries
  rw [only.finished]

section

variable {settings : Settings} {history : History World Note Request Inner} {now : Option Call}
  {after : State World Note Request Inner}

theorem Sound.issued_call (sound : Sound settings history)
    (only : CallOnly now history.state after) {entry : Token × Phase}
    (member : entry ∈ after.roster) :
    entry.1.generation < after.registry.nextGeneration := by
  rcases only.mem_roster.mp member with added | kept
  · rw [only.fresh added]
    exact only.next_lt added
  · exact Int.lt_of_lt_of_le (sound.issued entry kept) only.next_le

theorem Sound.accepted_call (sound : Sound settings history)
    (only : CallOnly now history.state after) {entry : Token × Phase}
    (member : entry ∈ after.roster) :
    .accepted entry.1.key entry.1.generation ∈ history.calls ++ now.toList := by
  rcases only.mem_roster.mp member with added | kept
  · obtain ⟨made, present, member⟩ := List.mem_flatMap.mp added
    rw [(Call.mem_added member).1] at present
    exact List.mem_append_right _ present
  · exact List.mem_append_left _ (sound.accepted entry kept)

theorem Sound.enrolled_call (sound : Sound settings history)
    (only : CallOnly now history.state after) {key : String} {generation : Int}
    (accepted : .accepted key generation ∈ history.calls ++ now.toList) :
    ∃ entry ∈ after.roster, entry.1.key = key ∧ entry.1.generation = generation := by
  rcases List.mem_append.mp accepted with before | added
  · obtain ⟨entry, kept, named⟩ := sound.enrolled key generation before
    exact ⟨entry, only.mem_roster.mpr (Or.inr kept), named⟩
  · refine ⟨(Token.issue key generation, .waiting), only.mem_roster.mpr (Or.inl ?_), rfl, rfl⟩
    exact List.mem_flatMap.mpr ⟨_, added, Call.added_accepted key generation⟩

theorem Sound.newest_call (sound : Sound settings history)
    (only : CallOnly now history.state after) {key : String} {token : Token}
    (found : after.registry.tokens.get? key = some token) :
    IsNewest key token.generation (history.calls ++ now.toList) := by
  rw [only.tokens key] at found
  cases now with
  | none =>
      rw [Option.toList_none, List.append_nil]
      exact sound.newest key token found
  | some call => exact isNewest_tokenOf (sound.newest key) found

/-- Nothing has been said of a trigger that has just been accepted. -/
theorem Sound.said_call (sound : Sound settings history)
    (only : CallOnly now history.state after) {entry : Token × Phase}
    (member : entry ∈ after.roster) :
    ∃ said, Said entry.1.key entry.2 said ∧
      spokenOf entry.1.generation history.ledger = said := by
  rcases only.mem_roster.mp member with added | kept
  · obtain ⟨made, _present, member⟩ := List.mem_flatMap.mp added
    have number := only.fresh added
    refine ⟨[], ?_, ?_⟩
    · rw [(Call.mem_added member).2]
      exact .waiting
    · refine spokenOf_eq_nil fun record recorded same => ?_
      obtain ⟨other, present, named⟩ := sound.recorded record recorded
      have bound := sound.issued other present
      omega
  · exact sound.said entry kept

/-- A trigger that has just been accepted is beyond all that has been delivered. -/
theorem Sound.overtaken_call (sound : Sound settings history)
    (only : CallOnly now history.state after) {key : String} {generation : Int}
    (newest : IsNewest key generation (history.calls ++ now.toList)) {delivery : Int × Correlation}
    (member : delivery ∈ history.state.deliveries key) : delivery.1 ≤ generation := by
  cases now with
  | none =>
      rw [Option.toList_none, List.append_nil] at newest
      exact sound.overtaken key generation newest delivery member
  | some call =>
      rcases isNewest_append_one newest with accepted | ⟨_other, before⟩
      · have number := only.numbered key generation (by rw [accepted])
        obtain ⟨entry, present, named⟩ := State.mem_deliveries member
        have bound := sound.issued entry (List.mem_append_right _ present)
        omega
      · exact sound.overtaken key generation before delivery member

theorem Sound.call (sound : Sound settings history) (only : CallOnly now history.state after) :
    Sound settings
      { state := after, calls := history.calls ++ now.toList, ledger := history.ledger } where
  configured := only.settings.trans sound.configured
  distinct := only.distinct sound.distinct sound.issued
  issued := fun _entry member => sound.issued_call only member
  accepted := fun _entry member => sound.accepted_call only member
  enrolled := fun _key _generation accepted => sound.enrolled_call only accepted
  recorded := by
    intro record member
    obtain ⟨entry, kept, named⟩ := sound.recorded record member
    exact ⟨entry, only.mem_roster.mpr (Or.inr kept), named⟩
  newest := fun _key _token found => sound.newest_call only found
  said := fun _entry member => sound.said_call only member
  overtaken := by
    intro key generation newest delivery member
    rw [only.deliveries] at member
    exact sound.overtaken_call only newest member
  increasing := by
    intro key
    rw [only.deliveries]
    exact sound.increasing key
  latest := by
    intro key
    rw [only.deliveries, ← sound.latest key]
    exact congrArg (Table.get? · key) only.results
  complete := only.events.trans sound.complete
  told := by
    intro key
    rw [only.deliveries]
    exact sound.told key
  reported := by
    intro calm key
    rw [only.deliveries]
    exact sound.reported calm key

end

/-! ### Turns -/

def Phase.deliveriesFor (key : String) (token : Token) (phase : Phase) :
    List (Int × Correlation) :=
  if token.key = key then
    phase.kept?.toList.map fun correlation => (token.generation, correlation)
  else []

/-- What a turn adds to what was said holds no result but the one that it keeps. -/
theorem TurnOf.results_sublist {before after : State World Note Request Inner} {token : Token}
    {old new : Phase} {more said : List (Event Note)} (turn : TurnOf before after token old new more)
    (saidBefore : Said token.key old said) (key : String) :
    (more.filterMap (Event.resultFor? key)).Sublist
      (if token.key = key then new.kept?.toList else []) := by
  refine List.Sublist.trans ?_ ((turn.word said saidBefore).results_sublist key)
  rw [List.filterMap_append]
  exact List.sublist_append_right _ _

/-- Where the call-back for statuses returns, that result is told. -/
theorem TurnOf.results_more {before after : State World Note Request Inner} {token : Token}
    {old new : Phase} {more said : List (Event Note)} (turn : TurnOf before after token old new more)
    (calm : before.settings.StatusCalm) (live : old.kept? = none)
    (saidBefore : Said token.key old said) (key : String) :
    more.filterMap (Event.resultFor? key) =
      if token.key = key then new.kept?.toList else [] := by
  have nothing : said.filterMap (Event.resultFor? key) = [] := by
    have within := saidBefore.results_sublist key
    rw [live, Option.toList_none, ite_self] at within
    exact List.sublist_nil.mp within
  have all := (turn.word said saidBefore).results_of_told
    (fun correlation kept => List.mem_append_right _ ((turn.told correlation kept).2 calm)) key
  rw [List.filterMap_append, nothing, List.nil_append] at all
  exact all

theorem Stage.phase_kept? (stage : Stage Inner) : stage.phase.kept? = none := by
  cases stage <;> rfl

theorem State.deliveries_turn {before after : State World Note Request Inner} {token : Token}
    {old new : Phase} {more : List (Event Note)} (turn : TurnOf before after token old new more)
    (key : String) :
    after.deliveries key = before.deliveries key ++ new.deliveriesFor key token := by
  unfold State.deliveries Phase.deliveriesFor
  rw [turn.finished, List.filterMap_append, ending_deliveries]

theorem Phase.mem_deliveriesFor {key : String} {token : Token} {phase : Phase}
    {delivery : Int × Correlation} (member : delivery ∈ phase.deliveriesFor key token) :
    token.key = key ∧ delivery.1 = token.generation ∧ phase.kept?.isSome := by
  unfold deliveriesFor at member
  split at member
  · rename_i same
    obtain ⟨correlation, present, rfl⟩ := List.mem_map.mp member
    rw [Option.mem_toList] at present
    exact ⟨same, rfl, by rw [present]; rfl⟩
  · cases member

theorem Phase.deliveriesFor_same (token : Token) (phase : Phase) :
    phase.deliveriesFor token.key token =
      phase.kept?.toList.map fun correlation => (token.generation, correlation) :=
  if_pos rfl

theorem Phase.deliveriesFor_other {key : String} {token : Token} (other : token.key ≠ key)
    (phase : Phase) : phase.deliveriesFor key token = [] :=
  if_neg other

theorem Phase.pairwise_deliveriesFor (key : String) (token : Token) (phase : Phase) :
    ((phase.deliveriesFor key token).map Prod.fst).Pairwise (· < ·) := by
  unfold deliveriesFor
  split
  · cases phase.kept? <;> simp
  · exact List.Pairwise.nil

/-- What a task delivers is the latest result of its key from then on. -/
theorem State.latest_turn {before after : State World Note Request Inner} {token : Token}
    {old new : Phase} {more : List (Event Note)} (turn : TurnOf before after token old new more)
    (key : String) :
    after.latest key =
      ((new.deliveriesFor key token).getLast?.map Prod.snd).or (before.latest key) := by
  unfold State.latest
  rw [turn.results, store_get?]
  by_cases same : token.key = key
  · subst same
    rw [if_pos rfl, Phase.deliveriesFor_same]
    cases new.kept? <;> rfl
  · rw [if_neg (fun equal => same equal.symm), Phase.deliveriesFor_other same]
    rfl

section

variable {settings : Settings} {history : History World Note Request Inner} {position : Nat}
  {task : Task Request Inner} {wake : Wake} {after : State World Note Request Inner} {new : Phase}
  {more : List (Event Note)}

/-- The task whose turn it is with what was said of it. -/
theorem Sound.said_taken (sound : Sound settings history)
    (found : history.state.ready[position]? = some (.task task wake)) :
    ∃ said, Said task.token.key task.stage.phase said ∧
      spokenOf task.token.generation history.ledger = said :=
  sound.said _ ((State.mem_roster_taken found).mpr (Or.inl rfl))

/-- Only the newest trigger of a key delivers. -/
theorem Sound.isNewest_of_delivers (sound : Sound settings history)
    (turn : TurnOf (history.state.taken position) after task.token task.stage.phase new more)
    (delivers : new.kept?.isSome) :
    IsNewest task.token.key task.token.generation history.calls := by
  obtain ⟨correlation, kept⟩ := Option.isSome_iff_exists.mp delivers
  exact sound.isNewest (turn.current (List.ne_nil_of_mem (turn.told correlation kept).1))

theorem Sound.said_turn (sound : Sound settings history)
    (found : history.state.ready[position]? = some (.task task wake))
    (turn : TurnOf (history.state.taken position) after task.token task.stage.phase new more)
    {events : List (Event Note)} (spoken : events.filter Event.isSpoken = more)
    (clock : Nat) {entry : Token × Phase} (member : entry ∈ after.roster) :
    ∃ said, Said entry.1.key entry.2 said ∧
      spokenOf entry.1.generation
          (history.ledger ++ recordsOf task.token.generation clock events) = said := by
  rw [spokenOf_append]
  rcases turn.mem_roster.mp member with rfl | other
  · obtain ⟨said, saidBefore, spokenBefore⟩ := sound.said_taken found
    refine ⟨said ++ more, turn.word said saidBefore, ?_⟩
    rw [spokenOf_recordsOf, spoken, spokenBefore]
  · obtain ⟨said, saidOthers, spokenOthers⟩ :=
      sound.said entry ((State.mem_roster_taken found).mpr (Or.inr other))
    refine ⟨said, saidOthers, ?_⟩
    rw [spokenOthers, spokenOf_eq_nil, List.append_nil]
    intro record recorded same
    obtain ⟨event, _present, rfl⟩ := List.mem_map.mp recorded
    exact State.ne_of_taken found sound.distinct other same.symm

theorem Sound.overtaken_turn (sound : Sound settings history)
    (turn : TurnOf (history.state.taken position) after task.token task.stage.phase new more)
    {key : String} {generation : Int} (newest : IsNewest key generation history.calls)
    {delivery : Int × Correlation} (member : delivery ∈ after.deliveries key) :
    delivery.1 ≤ generation := by
  rw [State.deliveries_turn turn] at member
  rcases List.mem_append.mp member with old | now
  · exact sound.overtaken key generation newest delivery old
  · obtain ⟨same, number, delivers⟩ := Phase.mem_deliveriesFor now
    have newestNow := sound.isNewest_of_delivers turn delivers
    rw [same] at newestNow
    exact Int.le_of_eq (number.trans (newestNow.unique newest))

/-- What was delivered before is overtaken by who delivers now, and is not theirs. -/
theorem Sound.increasing_turn (sound : Sound settings history)
    (found : history.state.ready[position]? = some (.task task wake))
    (turn : TurnOf (history.state.taken position) after task.token task.stage.phase new more)
    (key : String) : ((after.deliveries key).map Prod.fst).Pairwise (· < ·) := by
  rw [State.deliveries_turn turn, List.map_append, List.pairwise_append]
  refine ⟨sound.increasing key, Phase.pairwise_deliveriesFor key task.token new, ?_⟩
  intro earlier old later now
  obtain ⟨first, member, rfl⟩ := List.mem_map.mp old
  obtain ⟨second, present, rfl⟩ := List.mem_map.mp now
  obtain ⟨same, number, delivers⟩ := Phase.mem_deliveriesFor present
  have newestNow := sound.isNewest_of_delivers turn delivers
  rw [same] at newestNow
  have bound := sound.overtaken key _ newestNow first member
  obtain ⟨entry, ended, named⟩ := State.mem_deliveries member
  have different := State.ne_of_taken found sound.distinct (List.mem_append_right _ ended)
  omega

theorem Sound.latest_of_turn (sound : Sound settings history)
    (turn : TurnOf (history.state.taken position) after task.token task.stage.phase new more)
    (key : String) : after.latest key = (after.deliveries key).getLast?.map Prod.snd := by
  have before : (history.state.taken position).latest key =
      ((history.state.taken position).deliveries key).getLast?.map Prod.snd := sound.latest key
  rw [State.latest_turn turn, State.deliveries_turn turn, before, List.getLast?_append,
    Option.map_or]

theorem Sound.told_turn (sound : Sound settings history)
    (found : history.state.ready[position]? = some (.task task wake))
    (turn : TurnOf (history.state.taken position) after task.token task.stage.phase new more)
    {events : List (Event Note)} (spoken : events.filter Event.isSpoken = more)
    (clock : Nat) (key : String) :
    ((history.ledger ++ recordsOf task.token.generation clock events).filterMap
        (Record.delivery? key)).Sublist (after.deliveries key) := by
  obtain ⟨said, saidBefore, _spoken⟩ := sound.said_taken found
  rw [List.filterMap_append, State.deliveries_turn turn, delivery?_recordsOf, spoken]
  refine (sound.told key).append ?_
  unfold Phase.deliveriesFor
  have now := (turn.results_sublist saidBefore key).map
    fun correlation => (task.token.generation, correlation)
  split at now
  · rename_i same
    rw [if_pos same]
    exact now
  · rename_i other
    rw [if_neg other]
    exact now

theorem Sound.reported_turn (sound : Sound settings history)
    (found : history.state.ready[position]? = some (.task task wake))
    (turn : TurnOf (history.state.taken position) after task.token task.stage.phase new more)
    {events : List (Event Note)} (spoken : events.filter Event.isSpoken = more)
    (clock : Nat) (calm : settings.StatusCalm) (key : String) :
    (history.ledger ++ recordsOf task.token.generation clock events).filterMap
        (Record.delivery? key) = after.deliveries key := by
  obtain ⟨said, saidBefore, _spoken⟩ := sound.said_taken found
  have silent : (history.state.taken position).settings.StatusCalm := sound.configured ▸ calm
  rw [List.filterMap_append, sound.reported calm key, State.deliveries_turn turn,
    delivery?_recordsOf, spoken,
    turn.results_more silent task.stage.phase_kept? saidBefore key]
  by_cases same : task.token.key = key
  · subst same
    rw [if_pos rfl, Phase.deliveriesFor_same]
    rfl
  · rw [if_neg same, Phase.deliveriesFor_other same]
    rfl

theorem Sound.turn (sound : Sound settings history)
    (found : history.state.ready[position]? = some (.task task wake))
    (turn : TurnOf (history.state.taken position) after task.token task.stage.phase new more) :
    Sound settings
      { state := after
        calls := history.calls
        ledger := history.ledger ++ recordsBetween history.state after (some task) } := by
  obtain ⟨events, appended, spoken⟩ := turn.events
  have records : recordsBetween history.state after (some task) =
      recordsOf task.token.generation history.state.clock events :=
    recordsBetween_some task appended
  rw [records]
  exact
    { configured := turn.settings.trans sound.configured
      distinct := by
        have distinct := sound.distinct
        rw [((history.state.taken_roster found).map _).nodup_iff] at distinct
        rw [(turn.roster.map _).nodup_iff]
        exact distinct
      issued := by
        intro entry member
        obtain ⟨former, present, same⟩ := turn.exists_before found member
        have sameNext : after.registry.nextGeneration =
            history.state.registry.nextGeneration := turn.nextGeneration
        rw [← same, sameNext]
        exact sound.issued former present
      accepted := by
        intro entry member
        obtain ⟨former, present, same⟩ := turn.exists_before found member
        rw [← same]
        exact sound.accepted former present
      enrolled := by
        intro key generation accepted
        obtain ⟨entry, present, named⟩ := sound.enrolled key generation accepted
        obtain ⟨later, member, same⟩ := turn.exists_after found present
        exact ⟨later, member, same ▸ named⟩
      recorded := by
        intro record member
        rcases List.mem_append.mp member with old | now
        · obtain ⟨entry, present, named⟩ := sound.recorded record old
          obtain ⟨later, member, same⟩ := turn.exists_after found present
          exact ⟨later, member, same ▸ named⟩
        · obtain ⟨event, _present, rfl⟩ := List.mem_map.mp now
          exact ⟨(task.token, new), turn.mem_roster.mpr (Or.inl rfl), rfl⟩
      newest := by
        intro key token present
        apply sound.newest key token
        rw [← present]
        exact congrArg (Table.get? · key) turn.tokens.symm
      said := fun _entry member => sound.said_turn found turn spoken _ member
      overtaken := fun _key _generation newest _delivery member =>
        sound.overtaken_turn turn newest member
      increasing := sound.increasing_turn found turn
      latest := sound.latest_of_turn turn
      complete := by
        have before : (history.state.taken position).events = history.ledger.map Record.event :=
          sound.complete
        rw [appended, before, List.map_append, map_event_recordsOf]
      told := sound.told_turn found turn spoken _
      reported := sound.reported_turn found turn spoken _ }

end

/-! ### All histories -/

theorem State.occur_turnOf (behaviour : Behaviour World Note Request Inner)
    (state : State World Note Request Inner) {position : Nat} {task : Task Request Inner}
    {wake : Wake} (found : state.ready[position]? = some (.task task wake)) :
    ∃ new more, TurnOf (state.taken position) (state.occur behaviour (.turn position)) task.token
      task.stage.phase new more := by
  rw [occur_turn found]
  exact runTask_turnOf behaviour (state.taken position) task wake

theorem callOf?_of_speaker {state : State World Note Request Inner} {position : Nat}
    {task : Task Request Inner} {wake : Wake}
    (found : state.ready[position]? = some (.task task wake)) :
    callOf? state (.turn position : Occurrence World Request) = none := by
  simp only [callOf?, found]

theorem Sound.extend {settings : Settings} {history : History World Note Request Inner}
    (behaviour : Behaviour World Note Request Inner) (occurrence : Occurrence World Request)
    (sound : Sound settings history) : Sound settings (history.extend behaviour occurrence) := by
  unfold History.extend
  cases spoken : speaker? history.state occurrence with
  | none =>
      have next := sound.call (occur_callOnly behaviour history.state occurrence spoken)
      simp only [recordsBetween, List.append_nil]
      exact next
  | some task =>
      obtain ⟨position, wake, rfl, found⟩ := speaker?_eq_some spoken
      obtain ⟨new, more, turn⟩ := history.state.occur_turnOf behaviour found
      have next := sound.turn found turn
      simp only [callOf?_of_speaker found, Option.toList_none, List.append_nil]
      exact next

theorem sound_of (behaviour : Behaviour World Note Request Inner) (settings : Settings)
    (world : World) (past : List (Occurrence World Request)) :
    Sound settings (History.of behaviour settings world past) :=
  History.of_induction (sound_begin settings world)
    (fun _history occurrence sound => sound.extend behaviour occurrence) past

theorem exists_notes {events : List (Event Note)} (unspoken : events.filter Event.isSpoken = []) :
    ∃ notes : List Note, events = notes.map Event.note := by
  induction events with
  | nil => exact ⟨[], rfl⟩
  | cons event events ih =>
      cases event with
      | note note =>
          obtain ⟨notes, rfl⟩ := ih unspoken
          exact ⟨note :: notes, rfl⟩
      | _ => cases unspoken

theorem Quiet.unheard {before after : State World Note Request Inner}
    {added : List (Token × Phase)} (quiet : Quiet added before after) : Unheard before after where
  status := quiet.status
  detail := quiet.detail
  latest := fun key => congrArg (Table.get? · key) quiet.results
  events := ⟨[], by rw [quiet.events]; exact (List.append_nil _).symm⟩

theorem TurnOf.unheard {before after : State World Note Request Inner} {token : Token}
    {old new : Phase} (turn : TurnOf before after token old new []) : Unheard before after where
  status := (turn.unsaid rfl).1
  detail := (turn.unsaid rfl).2.1
  latest := fun key => congrArg (Table.get? · key) (turn.unsaid rfl).2.2
  events := by
    obtain ⟨events, appended, spoken⟩ := turn.events
    obtain ⟨notes, rfl⟩ := exists_notes spoken
    exact ⟨notes, appended⟩

theorem TurnOf.latest_other {before after : State World Note Request Inner} {token : Token}
    {old new : Phase} {more : List (Event Note)} (turn : TurnOf before after token old new more)
    {key : String} (other : key ≠ token.key) : after.latest key = before.latest key := by
  unfold State.latest
  rw [turn.results, store_get?, if_neg other]

/-- In every history, whatever its schedule, its correlators and its call-backs, which may be given
or not and may let something escape: what occurs next is unheard unless it is the turn of a task
whose trigger is the newest of its key, and then it touches no other key; what was said of a trigger
is one word, which may have been broken off; nothing that was said is anybody else's, and what the
call-backs hear of it is what each is there for; results of a key are delivered in the order of their
triggers; and the latest result of a key is the one delivered last. Of the deliveries those are told
as results, in order, whose status could be told: all of them if nothing escapes from the call-back
for statuses. -/
theorem heard_only_while_newest (behaviour : Behaviour World Note Request Inner)
    (settings : Settings) (world : World) (past : List (Occurrence World Request)) :
    let history := History.of behaviour settings world past
    (∀ occurrence, Unheard history.state (history.state.occur behaviour occurrence) ∨
      ∃ task, speaker? history.state occurrence = some task ∧
        IsNewest task.token.key task.token.generation history.calls ∧
        ∀ key, key ≠ task.token.key →
          (history.state.occur behaviour occurrence).latest key = history.state.latest key) ∧
    (∀ key generation, .accepted key generation ∈ history.calls →
      Word key (spokenOf generation history.ledger)) ∧
    (∀ record ∈ history.ledger, ∃ key, .accepted key record.generation ∈ history.calls) ∧
    history.state.heard = (history.ledger.map Record.event).filter settings.hears ∧
    (∀ key, ((history.state.deliveries key).map Prod.fst).Pairwise (· < ·)) ∧
    (∀ key, history.state.latest key = (history.state.deliveries key).getLast?.map Prod.snd) ∧
    (∀ key, (history.ledger.filterMap (Record.delivery? key)).Sublist
      (history.state.deliveries key)) ∧
    (settings.StatusCalm → ∀ key,
      history.ledger.filterMap (Record.delivery? key) = history.state.deliveries key) := by
  intro history
  have sound : Sound settings history := sound_of behaviour settings world past
  refine ⟨?_, ?_, ?_, ?_, sound.increasing, sound.latest, sound.told, sound.reported⟩
  · intro occurrence
    cases spoken : speaker? history.state occurrence with
    | none =>
        exact Or.inl (occur_callOnly behaviour history.state occurrence spoken).toQuiet.unheard
    | some task =>
        obtain ⟨position, wake, rfl, found⟩ := speaker?_eq_some spoken
        obtain ⟨new, more, turn⟩ := history.state.occur_turnOf behaviour found
        by_cases silent : more = []
        · subst silent
          obtain ⟨status, detail, latest, events⟩ := turn.unheard
          exact Or.inl ⟨status, detail, latest, events⟩
        · exact Or.inr ⟨task, rfl, sound.isNewest (turn.current silent),
            fun key other => turn.latest_other other⟩
  · intro key generation accepted
    obtain ⟨entry, present, rfl, rfl⟩ := sound.enrolled key generation accepted
    obtain ⟨said, ending, spoken⟩ := sound.said entry present
    rw [spoken]
    exact ending.isWord
  · intro record member
    obtain ⟨entry, present, named⟩ := sound.recorded record member
    exact ⟨entry.1.key, named ▸ sound.accepted entry present⟩
  · unfold State.heard
    rw [sound.complete, sound.configured]

end ListingAtlas.Session
