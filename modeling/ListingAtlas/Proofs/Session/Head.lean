import ListingAtlas.Proofs.Session.Apart

/-!
The task that has its turn. It comes to stand behind the others, or ends, and in each case the calls
for its key stay apart; so they do wherever a session can get to.
-/

namespace ListingAtlas.Session

variable {World Note Request Inner : Type}

section

variable {behaviour : Behaviour World Note Request Inner} {debounce : Nat}
  {state before after : State World Note Request Inner}

/-- What is known of the task that has its turn, and of the others. -/
structure Head (behaviour : Behaviour World Note Request Inner) (debounce : Nat)
    (state : State World Note Request Inner) (task : Task Request Inner) (wake : Wake) :
    Prop where
  rest : Apart behaviour debounce state
  others : ∀ other place, Seats state other place →
    other.token.generation ≠ task.token.generation
  underway : state.Counts task.token → Underway behaviour state.clock (.queued task wake)
  dismissed : ¬ state.Counts task.token →
    Dismissed behaviour debounce state.clock (.queued task wake)
  named : ∀ key, state.registry.tasks.get? key = some task.token.generation →
    task.token.key = key
  single : ∀ other place, Seats state other place → task.stage.phase = .working →
    other.stage.phase = .working → other.token.key ≠ task.token.key
  behind : ∀ newest seat opening, Seats state newest seat → state.Counts newest.token →
    seat.opening? state.clock = some opening → task.token.key = newest.token.key →
      task.stage.phase = .working → Leaving behaviour state.clock opening (.queued task wake)
  ahead : ∀ call place opening, Seats state call place → state.Counts task.token →
    Place.opening? state.clock (.queued task wake) = some opening →
      call.token.key = task.token.key → call.stage.phase = .working →
        Leaving behaviour state.clock opening place
  queue : ∀ item ∈ state.ready, state.Precedes (.task task wake) item

theorem Apart.head {task : Task Request Inner} {wake : Wake}
    (apart : Apart behaviour debounce state)
    (distinct : (state.roster.map fun entry => entry.1.generation).Nodup)
    (found : state.ready[0]? = some (.task task wake)) :
    Head behaviour debounce (state.taken 0) task wake := by
  have first : state.ready = .task task wake :: (state.taken 0).ready := by
    unfold State.taken
    cases ready : state.ready with
    | nil =>
        rw [ready] at found
        cases found
    | cons item rest =>
        rw [ready, List.getElem?_cons_zero] at found
        rw [Option.some.inj found]
        rfl
  have here : Seats state task (.queued task wake) := by
    refine .queued ?_
    rw [first]
    exact List.mem_cons_self
  have kept {other : Task Request Inner} {place : Place Request Inner}
      (seats : Seats (state.taken 0) other place) : Seats state other place :=
    seats.of_sublist (List.eraseIdx_sublist _ _) (List.Sublist.refl _)
  have others (other : Task Request Inner) (place : Place Request Inner)
      (seats : Seats (state.taken 0) other place) :
      other.token.generation ≠ task.token.generation :=
    State.ne_of_taken found distinct seats.mem_roster
  have queue := apart.queue
  rw [first, List.pairwise_cons] at queue
  exact
    { rest := apart.of_sublist rfl rfl (List.eraseIdx_sublist _ _) (List.Sublist.refl _)
        fun _task _place _key _seats => Iff.rfl
      others
      underway := apart.underway task _ here
      dismissed := apart.dismissed task _ here
      named := fun key => apart.named task _ key here
      single := fun other place seats working working' sameKey =>
        others other place seats
          (apart.single other task place _ (kept seats) here working' working sameKey)
      behind := fun newest seat opening seats =>
        apart.ahead newest task seat _ opening (kept seats) here
      ahead := fun call place opening seats =>
        apart.ahead task call _ place opening here (kept seats)
      queue := queue.1 }

theorem Place.waiting_own (clock : Nat) (task : Task Request Inner) (ticks : Option Nat) :
    (∃ wake, Place.waiting clock task ticks = .queued task wake) ∨
      ∃ due, Place.waiting clock task ticks = .asleep task due := by
  unfold Place.waiting
  split
  · exact Or.inl ⟨_, rfl⟩
  · exact Or.inr ⟨_, rfl⟩

section

variable {task : Task Request Inner} {wake : Wake}

theorem Head.alone (head : Head behaviour debounce state task wake)
    (counts : state.Counts task.token) {other : Task Request Inner} {place : Place Request Inner}
    (seats : Seats state other place) (counting : state.Counts other.token) :
    task.token.key ≠ other.token.key := by
  intro sameKey
  exact head.others other place seats (Counts.unique counting counts sameKey.symm)

theorem Head.counts (head : Head behaviour debounce state task wake) (elapsed : wake = .elapsed)
    (early : ∀ inner, task.stage ≠ .correlating inner) : state.Counts task.token := by
  by_contra uncounted
  have dismissed := head.dismissed uncounted
  rw [elapsed] at dismissed
  cases dismissed with
  | leaving leaving =>
      cases leaving with
      | queued stage _early _inTime => exact early _ stage

/-- A task that begins to wait for its call comes behind the calls for its key. -/
theorem Head.fits_debouncing (head : Head behaviour debounce state task wake)
    (stage : task.stage = .scheduled) (elapsed : wake = .elapsed) :
    Fits behaviour debounce state { task with stage := .debouncing }
      (.waiting state.clock { task with stage := .debouncing } (some debounce)) := by
  have counts := head.counts elapsed fun inner other => by
    rw [stage] at other
    cases other
  have idle : ({ task with stage := .debouncing } : Task Request Inner).stage.phase ≠ .working := by
    intro working
    cases working
  refine .of_idle idle head.named ?_ counts ?_
  · cases debounce with
    | zero =>
        rw [Place.waiting_zero]
        exact .ripe rfl
    | succ debounce =>
        rw [Place.waiting_pos state.clock _ (Nat.succ_pos debounce)]
        exact .debouncing rfl (by omega)
  · intro call seat opening seats opens sameKey working
    have opening : opening = state.clock + debounce := by
      cases debounce with
      | zero => exact (Option.some.inj opens).symm
      | succ debounce => exact (Option.some.inj opens).symm
    rw [opening]
    have uncounted : ¬ state.Counts call.token := fun counting =>
      head.alone counts seats counting sameKey.symm
    cases head.rest.dismissed call seat seats uncounted with
    | leaving leaving => exact leaving
    | asked inTime =>
        cases seats with
        | queued present =>
            have told := (head.queue _ present task wake call .cancelled rfl rfl counts sameKey
              working).2 stage
            cases told

/-- A task that counts comes behind no other call when it begins or goes on with its own. -/
theorem Head.fits_call (head : Head behaviour debounce state task wake)
    (counts : state.Counts task.token) {inner : Inner} {ticks : Option Nat}
    (attained : Attained behaviour ticks inner)
    (clear : ∀ other place, Seats state other place → other.stage.phase = .working →
      other.token.key ≠ task.token.key) :
    Fits behaviour debounce state { task with stage := .correlating inner }
      (.waiting state.clock { task with stage := .correlating inner } ticks) := by
  refine
    { named := head.named
      underway := fun _counting => .of_attained attained
      dismissed := fun uncounted => absurd counts uncounted
      single := fun other seat seats _working working => clear other seat seats working
      ahead := fun call seat _opening seats _counting _opens sameKey working =>
        absurd sameKey (clear call seat seats working)
      behind := fun _newest _seat _opening seats counting _opens sameKey _working =>
        absurd sameKey (head.alone counts seats counting)
      queue := ?_
      sleepers := ?_ }
  · intro _wake _here item present newest before call other first second counting sameKey _working
    rw [first] at present
    rw [Item.task.injEq] at second
    rw [← second.1] at sameKey
    exact absurd sameKey (head.alone counts (.queued present) counting)
  · intro _due _here sleeper present counting sameKey _working
    exact absurd sameKey (head.alone counts (.asleep present) counting)

/-- A call that does not count stays sure to end in time. -/
theorem Head.fits_leaving (head : Head behaviour debounce state task wake)
    (uncounted : ¬ state.Counts task.token) {inner next : Inner} {world : World}
    {ticks : Option Nat} (stage : task.stage = .correlating inner)
    (move : (behaviour.resume world inner wake).move = .wait ticks next) :
    Fits behaviour debounce state { task with stage := .correlating next }
      (.waiting state.clock { task with stage := .correlating next } ticks) := by
  have working : task.stage.phase = .working := by
    rw [stage]
    rfl
  have sure {deadline : Nat} (leaving : Leaving behaviour state.clock deadline (.queued task wake)) :
      (∃ count, ticks = some count ∧ state.clock + count < deadline) ∧
        Leaving behaviour state.clock deadline
          (.waiting state.clock { task with stage := .correlating next } ticks) := by
    cases wake with
    | elapsed => exact leaving.resume stage move
    | cancelled => cases leaving
  have leaves : Leaving behaviour state.clock (state.clock + debounce)
      (.waiting state.clock { task with stage := .correlating next } ticks) := by
    cases head.dismissed uncounted with
    | asked inTime => exact .of_cancelled (inTime inner stage) move
    | leaving leaving => exact (sure leaving).2
  refine
    { named := head.named
      underway := fun counting => absurd counting uncounted
      dismissed := fun _uncounted => .leaving leaves
      single := fun other seat seats _working => head.single other seat seats working
      ahead := fun _call _seat _opening _seats counting => absurd counting uncounted
      behind := fun newest seat opening seats counting opens sameKey _working =>
        (sure (head.behind newest seat opening seats counting opens sameKey working)).2
      queue := ?_
      sleepers := ?_ }
  · intro _wake here item present newest before call other first second counting sameKey _working
    rw [first] at present
    rw [Item.task.injEq] at second
    rw [← second.1] at sameKey
    refine ⟨fun debouncing => ?_, fun _scheduled => ?_⟩
    · have opens : Place.opening? state.clock (.queued newest before) = some state.clock :=
        if_pos (Stage.isDebouncing_iff.mpr debouncing)
      obtain ⟨count, _same, less⟩ :=
        (sure (head.behind newest _ _ (.queued present) counting opens sameKey working)).1
      omega
    · rw [← second.2]
      rw [here] at leaves
      cases leaves
      rfl
  · intro due here sleeper present counting sameKey _working debouncing start stop starts stops
    have opens : Place.opening? state.clock (.asleep sleeper.task sleeper.due) = some start := by
      rw [Place.opening?, if_pos (Stage.isDebouncing_iff.mpr debouncing)]
      exact starts
    obtain ⟨count, rfl, less⟩ :=
      (sure (head.behind sleeper.task _ _ (.asleep present) counting opens sameKey working)).1
    unfold Place.waiting at here
    split at here
    · cases here
    · rw [Place.asleep.injEq] at here
      change due = some stop at stops
      rw [← here.2, Option.map_some, Option.some.injEq] at stops
      omega

/-- When a call begins, no other of its key is in flight. -/
theorem Head.clear (head : Head behaviour debounce state task wake)
    (counts : state.Counts task.token) (stage : task.stage = .debouncing)
    {other : Task Request Inner} {place : Place Request Inner} (seats : Seats state other place)
    (working : other.stage.phase = .working) : other.token.key ≠ task.token.key := by
  intro sameKey
  have opens : Place.opening? state.clock (.queued task wake) = some state.clock :=
    if_pos (Stage.isDebouncing_iff.mpr stage)
  cases head.ahead other place state.clock seats counts opens sameKey working with
  | queued _stage _early _inTime =>
      cases seats with
      | queued present =>
          exact (head.queue _ present task wake other .elapsed rfl rfl counts sameKey working).1
            stage
  | asleep _stage later early _inTime => omega

end

theorem Apart.ended {token : Token} {outcome : Outcome} (apart : Apart behaviour debounce before)
    (moved : Moved before after token (.ended outcome)) (untouched : Untouched before after) :
    Apart behaviour debounce after := by
  have ready : after.ready = before.ready := moved.ready.trans (List.append_nil _)
  have sleeping : after.sleeping = before.sleeping := moved.sleeping.trans (List.append_nil _)
  apply apart.of_sublist untouched.settings untouched.clock (by rw [ready]) (by rw [sleeping])
  intro task place key _seats
  rw [untouched.tasks]

theorem Apart.runTask {task : Task Request Inner} {wake : Wake}
    (head : Head behaviour debounce state task wake) {count : Nat}
    (issued : task.token = Token.issue task.token.key (count + 1)) :
    Apart behaviour debounce (State.runTask behaviour state task wake) := by
  obtain ⟨place, goes, moved⟩ := State.runTask_moved behaviour state task wake
  obtain ⟨new, more, turn⟩ := State.runTask_turnOf behaviour state task wake
  have untouched := turn.toUntouched
  have put {stage : Stage Inner} {ticks : Option Nat}
      (moved : Moved state (State.runTask behaviour state task wake) task.token
        (.waiting state.clock { task with stage } ticks))
      (fits : Fits behaviour debounce state { task with stage }
        (.waiting state.clock { task with stage } ticks)) :
      Apart behaviour debounce (State.runTask behaviour state task wake) :=
    head.rest.put moved (Place.waiting_own _ _ _) untouched.settings untouched.clock
      untouched.tasks fits
  cases goes with
  | debounce ticks stage elapsed agreed =>
      have debounced := head.rest.debounced
      rw [agreed] at debounced
      obtain ⟨count, rfl, same⟩ := Option.map_eq_some_iff.mp debounced
      rw [Span.ticks.injEq] at same
      rw [same] at moved
      exact put moved (head.fits_debouncing stage elapsed)
  | start _place stage elapsed current led =>
      have counts := head.counts elapsed fun inner other => by
        rw [stage] at other
        cases other
      generalize move : (behaviour.start state.world task.request task.token).move = made at led
      cases led with
      | finish ending outcome => exact head.rest.ended moved untouched
      | wait ticks inner =>
          rw [issued] at move
          exact put moved (head.fits_call counts (.start _ _ _ _ move)
            fun _other _place => head.clear counts stage)
  | resume _place inner stage led =>
      generalize move : (behaviour.resume state.world inner wake).move = made at led
      cases led with
      | finish ending outcome => exact head.rest.ended moved untouched
      | wait ticks next =>
          by_cases counts : state.Counts task.token
          · obtain ⟨rfl, elapsed, attained⟩ := (head.underway counts).elapsed stage
            have working : task.stage.phase = .working := by
              rw [stage]
              rfl
            exact put moved (head.fits_call counts (.resume _ attained move)
              fun other place seats => head.single other place seats working)
          · exact put moved (head.fits_leaving counts stage move)
  | drop outcome early => exact head.rest.ended moved untouched

/-! ### Where a session can get to -/

theorem Apart.turn (inTime : EndsInTime behaviour debounce)
    (apart : Apart behaviour debounce state)
    (distinct : (state.roster.map fun entry => entry.1.generation).Nodup)
    (numbered : Numbered state) :
    Apart behaviour debounce (state.occur behaviour (.turn 0)) := by
  rcases state.occur_turn_cases behaviour 0 with
    ⟨_found, same⟩ | ⟨_found, same⟩ | ⟨task, wake, found, same⟩
  · rw [same]
    exact apart
  · rw [same]
    have taken : Apart behaviour debounce (state.taken 0) :=
      apart.of_sublist rfl rfl (List.eraseIdx_sublist _ _) (List.Sublist.refl _)
        fun _task _place _key _seats => Iff.rfl
    exact taken.beginClosing inTime
  · rw [same]
    have member : (task.token, task.stage.phase) ∈ state.roster :=
      State.mem_roster_ready (List.mem_of_getElem? found)
    obtain ⟨count, issued⟩ := numbered.issued _ member
    exact Apart.runTask (apart.head distinct found) issued

theorem Reaches.apart {settings : Settings} (reaches : Reaches behaviour settings state)
    (debounced : settings.debounce = some (.ticks debounce))
    (inTime : EndsInTime behaviour debounce) : Apart behaviour debounce state := by
  induction reaches with
  | initial world => exact apart_initial behaviour debounced world
  | @next state occurrence before inTurn apart =>
      obtain ⟨history, rfl, sound, registered⟩ := before.exists_history
      cases occurrence with
      | trigger key source request =>
          simp only [State.occur, State.trigger]
          split
          · exact apart.schedule inTime registered sound.issued key request
          · exact apart.of_sublist rfl rfl (List.Sublist.refl _) (List.Sublist.refl _)
              fun _task _place _key _seats => Iff.rfl
      | cancel key => exact apart.cancelKey inTime key
      | forget key => cases inTurn
      | close => exact apart.beginClosing inTime
      | queueClose =>
          refine apart.of_seats rfl rfl ?_ ?_ apart.sleepers
            fun _task _place _key _seats => Iff.rfl
          · exact fun _task _place seats => seats.of_closing_queued
          · refine List.pairwise_append.mpr ⟨apart.queue, List.pairwise_singleton _ _, ?_⟩
            intro first _present second closing newest wake call other _first made
            rw [made] at closing
            cases List.mem_singleton.mp closing
      | turn position =>
          rw [show position = 0 from inTurn]
          exact apart.turn inTime sound.distinct before.numbered
      | wake position => cases inTurn
      | tick => exact apart.tick inTurn
      | outside world =>
          exact apart.of_sublist rfl rfl (List.Sublist.refl _) (List.Sublist.refl _)
            fun _task _place _key _seats => Iff.rfl

end

end ListingAtlas.Session
