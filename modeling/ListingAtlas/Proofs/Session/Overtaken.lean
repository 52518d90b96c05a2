import ListingAtlas.Proofs.Session.Copies

/-!
Two calls for one source of which the earlier removes the copy of the later. The earlier is under a
limit, so that it takes turns to give up; if it also takes as long as a debounce until its compiler
is gone, the later one has begun by then.
-/

namespace ListingAtlas.Session

open Compile (Generation Process Site Request Watch)
open Compiling (wait hasten proceed giveUp)

/-! ### Runs of a session that compiles -/

section

variable {Note : Type} {environment : Environment} {pace : Pace} {settings : Settings}
  {site : Site} {requests : String → Request → Prop}
  {state : State Site Note Request Compiling}

/-- The states that a session can reach which compiles. -/
def Drive.within (Note : Type) (environment : Environment) (pace : Pace) (settings : Settings)
    (site : Site) (requests : String → Request → Prop) :
    Drive (compiling Note environment pace).toBehaviour settings where
  reach := Proceeds environment pace settings site requests
  configured := fun proceeds => proceeds.reaches.configured
  turn := fun proceeds => proceeds.next (.turn 0) rfl trivial
  tick := fun proceeds settled => proceeds.next .tick settled trivial

theorem Proceeds.turns (proceeds : Proceeds environment pace settings site requests state)
    (count : Nat) :
    Proceeds environment pace settings site requests
      (State.turns (compiling Note environment pace).toBehaviour count state) := by
  induction count generalizing state with
  | zero => exact proceeds
  | succ count ih =>
      have turned := proceeds.next (.turn 0) rfl trivial
      rw [State.occur, State.turnAt_zero] at turned
      exact ih turned

theorem hasten_begin {request : Request} {watch : Watch}
    (starts : ∀ process, pace.start process = .skipped)
    (running : (Generation.begin site request).elapse.stage = .running watch) :
    hasten pace (Generation.begin site request) = (Generation.begin site request).elapse := by
  unfold hasten
  rcases Generation.begin_stage site request with ⟨process, starting⟩ | ⟨ending, ended⟩
  · rw [starting]
    exact if_pos (starts process)
  · unfold Generation.elapse at running
    simp only [ended] at running
    cases running

/-- A call whose compiler starts at once attends to it, unless a helper has to begin before. -/
theorem startCompiling_at_once (Note : Type) (environment : Environment) {request : Request}
    {watch : Watch} (token : Token)
    (starts : ∀ process, pace.start process = .skipped)
    (family : Compile.checkFamily request.command = .ok ())
    (running : (Generation.begin site request).elapse.stage = .running watch)
    (attends : request.limit = none ∨ ∃ failure, watch.verdict = .expires failure ∧
      watch.ticks ≠ some 0) :
    let started : Progress Site Note Compiling :=
      startCompiling environment pace site request token
    let generation := (Generation.begin site request).elapse
    started.move = .wait watch.ticks { request, generation, waiting := .attending } ∧
      started.world = generation.site := by
  simp only [startCompiling, family, proceed, hasten_begin starts running, running]
  rcases attends with unlimited | ⟨failure, late, lasts⟩
  · rw [unlimited]
    exact ⟨rfl, rfl⟩
  · split
    · exact ⟨rfl, rfl⟩
    · simp only [late, Pace.delay, Delay.ticks]
      exact ⟨rfl, rfl⟩

/-- Under a limit a cancelled call waits for its helper. -/
theorem giveUp_limited {request : Request} {generation : Generation} {watch : Watch}
    {limit : Compile.Limit} (running : generation.stage = .running watch)
    (limited : request.limit = some limit) :
    (giveUp environment pace request generation : Progress Site Note Compiling) =
      wait request generation (some 0) (.hearing 2 .unwanted) := by
  simp only [giveUp, running, limited]

theorem proceed_reaping {request : Request} {generation : Generation} {process : Process}
    {failure : Option Failure} {ticks : Option Nat}
    (reaping : generation.stage = .reaping process failure)
    (gone : pace.gone process = .lasting ticks) :
    (proceed environment pace request generation : Progress Site Note Compiling) =
      wait request generation ticks .attending := by
  have still : hasten pace generation = generation := by
    unfold hasten
    rw [reaping, Pace.delay, gone]
    exact if_neg (by simp)
  simp only [proceed, still, reaping, Pace.delay, gone, Delay.ticks]

theorem proceed_ended {request : Request} {generation : Generation} {ending : Compile.Ending}
    (ended : generation.stage = .ended ending) :
    (proceed environment pace request generation : Progress Site Note Compiling) =
      { world := generation.site
        notes := []
        logs := []
        move := .finish (endingOfGeneration environment request ending) } := by
  have still : hasten pace generation = generation := by
    unfold hasten
    rw [ended, Pace.delay]
    exact if_neg (by simp)
  simp only [proceed, still, ended]

end

/-! ### Two requests for one source -/

namespace Overtaken

/-- A compiler that hangs, and one that takes a second. -/
def site : Site :=
  { workspace := Workspace.empty (Path.parse "/W")
    runs := []
    behaviours :=
      [.runs { duration := none, listing := none, output := some [], status := 0 },
        .runs { duration := some (.ticks 1), listing := none, output := some [], status := 0 }] }

def request (text : String) (limit : Option Compile.Limit) : Request :=
  { command := ["cl"]
    source := Path.parse "/W/main.c"
    text := .ofString text
    directory := "/W"
    buildDirectory := Path.parse "/W"
    limit }

/-- Two requests for one source, the earlier under a limit. -/
def earlier : Request := request "old\n" (some (.ofInt 9))

def later : Request := request "new\n" none

def requests (key : String) (request : Request) : Prop :=
  key = "k" ∧ (request = earlier ∨ request = later)

theorem wellPlaced : WellPlaced site.workspace requests where
  rooted := by decide +kernel
  directory := Path.spelled_parse "/W"
  source := by
    rintro key request ⟨_key, rfl | rfl⟩ <;> exact Path.spelled_parse "/W/main.c"
  build := by
    rintro key request ⟨_key, rfl | rfl⟩ <;> exact Path.spelled_parse "/W"
  apart := by
    intro key other request another asked askedToo different
    exact absurd (asked.1.trans askedToo.1.symm) different

/-- Whether a call is in flight whose compiler was told of a file that is not there. -/
def copyLost {Note : Type} (state : State Site Note Request Compiling) : Bool :=
  state.sleeping.any fun sleeper =>
    match sleeper.task.stage with
    | .correlating compiling =>
        compiling.compiler?.any fun process =>
          (Site.sourceOf state.world.workspace process.arguments).isNone
    | _ => false

theorem not_copiesKept_of_lost {pace : Pace} {settings : Settings} {slowest : Option Nat}
    (gone : ∀ process, (pace.gone process).Within slowest)
    {state : State Site Unit Request Compiling}
    (proceeds : Proceeds {} pace settings site requests state) (lost : copyLost state = true) :
    ¬ CopiesKept settings slowest := by
  intro kept
  obtain ⟨sleeper, present, missing⟩ := List.any_eq_true.mp lost
  cases stage : sleeper.task.stage with
  | scheduled => simp only [stage, Bool.false_eq_true] at missing
  | debouncing => simp only [stage, Bool.false_eq_true] at missing
  | correlating compiling =>
      simp only [stage, Option.any_eq_true] at missing
      obtain ⟨process, works, missing⟩ := missing
      obtain ⟨text, _encodable, held⟩ := kept Unit {} pace site requests gone wellPlaced state
        proceeds sleeper.task _ compiling process (.asleep present) stage works
      rw [held] at missing
      cases missing

/-! ### Without a debounce -/

/-- Two turns start the earlier request. Two more lead the later one, which comes then, through its
debounce, while the earlier one is given up; the fourth starts it, and in the sixth the earlier one
removes the copy. -/
theorem not_copiesKept_at_once (statuses results : Bool) (slowest : Option Nat) :
    ¬ CopiesKept (.recording (some (.ticks 0)) statuses results) slowest := by
  let settings := Settings.recording (some (.ticks 0)) statuses results
  let behaviour := (compiling Unit {} .immediate).toBehaviour
  let started : State Site Unit Request Compiling :=
    State.turns behaviour 2 ((State.initial settings site).trigger "k" earlier.source earlier)
  let overtaken : State Site Unit Request Compiling :=
    State.turns behaviour 6 (started.trigger "k" later.source later)
  have proceeds : Proceeds {} .immediate settings site requests overtaken := by
    have begun : Proceeds {} .immediate settings site requests
        (State.initial settings site : State Site Unit Request Compiling) := .initial
    have first := begun.next (.trigger "k" earlier.source earlier) trivial
      ⟨rfl, rfl, Or.inl rfl⟩
    have second := (first.turns 2).next (.trigger "k" later.source later) trivial
      ⟨rfl, rfl, Or.inr rfl⟩
    exact second.turns 6
  have lost : copyLost overtaken = true := by
    cases statuses <;> cases results <;> decide +kernel
  exact not_copiesKept_of_lost (fun process bound _slow => ⟨0, rfl, Nat.zero_le bound⟩) proceeds
    lost

/-! ### With compilers that are slow to be gone -/

/-- Killed compilers are gone after some ticks. -/
def slow (ticks : Nat) : Pace where
  start := fun _ => .skipped
  gone := fun _ => .lasting (some ticks)

theorem slow_starts (ticks : Nat) (process : Process) : (slow ticks).start process = .skipped :=
  rfl

/-- The earlier request has its compiler. -/
def begun : Generation := (Generation.begin site earlier).elapse

/-- Its compiler has been killed. -/
def killed : Generation := begun.cancel

/-- Then the later one has its own. -/
def overtaking : Generation := (Generation.begin killed.site later).elapse

/-- At last the compiler of the earlier one is gone. -/
def gone : Generation := Generation.elapse { killed with site := overtaking.site }

/-- For how long a compiler is attended to, and whether its limit is reached then. -/
def attended? : Compile.Stage → Option (Option Nat × Bool)
  | .running watch => some (watch.ticks, watch.verdict != .ends)
  | _ => none

theorem attended_begun : attended? begun.stage = some (some 9, true) := by
  decide +kernel

theorem attended_overtaking : attended? overtaking.stage = some (some 1, false) := by
  decide +kernel

/-- The compiler of the later request misses its source. -/
theorem source_gone :
    (overtaking.stage.process?.map fun process =>
      Site.sourceOf gone.site.workspace process.arguments) = some none := by
  decide +kernel

theorem exists_running {stage : Compile.Stage} {ticks : Option Nat} {late : Bool}
    (attended : attended? stage = some (ticks, late)) :
    ∃ watch, stage = .running watch ∧ watch.ticks = ticks ∧ (watch.verdict != .ends) = late := by
  cases stage with
  | running watch =>
      cases attended
      exact ⟨watch, rfl, rfl, rfl⟩
  | starting process | reaping process failure | ended ending => cases attended

theorem family : Compile.checkFamily ["cl"] = .ok () := by
  rfl

section

variable (ticks : Nat)

theorem start_earlier (token : Token) :
    let started : Progress Site Unit Compiling :=
      startCompiling {} (slow ticks) site earlier token
    started.move =
        .wait (some 9) { request := earlier, generation := begun, waiting := .attending } ∧
      started.world = begun.site := by
  obtain ⟨watch, running, nine, late⟩ := exists_running attended_begun
  have expires : ∃ failure, watch.verdict = .expires failure := by
    cases verdict : watch.verdict with
    | ends =>
        rw [verdict] at late
        cases late
    | expires failure => exact ⟨failure, rfl⟩
  obtain ⟨failure, expires⟩ := expires
  have lasts : watch.ticks ≠ some 0 := by
    rw [nine]
    decide
  have started := startCompiling_at_once Unit {} token (slow_starts ticks) family running
    (Or.inr ⟨failure, expires, lasts⟩)
  rw [nine] at started
  exact started

theorem start_later (token : Token) :
    let started : Progress Site Unit Compiling :=
      startCompiling {} (slow ticks) killed.site later token
    started.move =
        .wait (some 1) { request := later, generation := overtaking, waiting := .attending } ∧
      started.world = overtaking.site := by
  obtain ⟨watch, running, one, _ends⟩ := exists_running attended_overtaking
  have started := startCompiling_at_once Unit {} token (slow_starts ticks) family running
    (Or.inl rfl)
  rw [one] at started
  exact started

theorem cancel_earlier :
    let cancelled : Progress Site Unit Compiling :=
      resumeCompiling {} (slow ticks) begun.site ⟨earlier, begun, .attending⟩ .cancelled
    cancelled.move = .wait (some 0) ⟨earlier, begun, .hearing 2 .unwanted⟩ ∧
      cancelled.world = begun.site := by
  intro cancelled
  obtain ⟨watch, running, _nine, _late⟩ := exists_running attended_begun
  have limited : earlier.limit = some (.ofInt 9) := rfl
  have givesUp : cancelled = giveUp {} (slow ticks) earlier begun := rfl
  rw [givesUp, giveUp_limited running limited]
  exact ⟨rfl, rfl⟩

theorem reaping_killed : ∃ process, killed.stage = .reaping process none := by
  obtain ⟨watch, running, _nine, _late⟩ := exists_running attended_begun
  unfold killed Generation.cancel
  rw [running]
  exact ⟨watch.process, rfl⟩

theorem kill_earlier :
    let unwanted : Progress Site Unit Compiling :=
      resumeCompiling {} (slow ticks) begun.site ⟨earlier, begun, .hearing 0 .unwanted⟩ .elapsed
    unwanted.move = .wait (some ticks) ⟨earlier, killed, .attending⟩ ∧
      unwanted.world = killed.site := by
  intro unwanted
  obtain ⟨process, reaping⟩ := reaping_killed
  have gone : (slow ticks).gone process = .lasting (some ticks) := rfl
  have kills : unwanted = proceed {} (slow ticks) earlier killed := rfl
  rw [kills, proceed_reaping reaping gone]
  exact ⟨rfl, rfl⟩

theorem end_earlier :
    let last : Progress Site Unit Compiling :=
      resumeCompiling {} (slow ticks) overtaking.site ⟨earlier, killed, .attending⟩ .elapsed
    last.move = .finish .cancelled ∧ last.world = gone.site := by
  intro last
  obtain ⟨process, reaping⟩ := reaping_killed
  have attended : last = proceed {} (slow ticks) earlier gone := by
    simp only [last, resumeCompiling, Compiling.attended, reaping]
    rfl
  have ended : gone.stage = .ended .cancelled := by
    simp only [gone, Generation.elapse, reaping]
    rfl
  rw [attended, proceed_ended ended]
  exact ⟨rfl, rfl⟩

end

section

variable (debounce : Nat) (statuses results : Bool)

/-- A run in which killed compilers are as slow to be gone as the debounce is long. -/
def drive :
    Drive (compiling Unit {} (slow (debounce + 1))).toBehaviour
      (.recording (some (.ticks (debounce + 1))) statuses results) :=
  .within Unit {} (slow (debounce + 1)) _ site requests

variable {debounce statuses results} in
theorem reach_schedule {state : State Site Unit Request Compiling} {request : Request}
    (reached : (drive debounce statuses results).reach state)
    (asked : request = earlier ∨ request = later) :
    (drive debounce statuses results).reach (state.schedule "k" request) := by
  have accepted : State.accepts request.source = true := by
    rcases asked with rfl | rfl <;> decide +kernel
  have triggered := Proceeds.next (.trigger "k" request.source request) reached trivial
    ⟨rfl, rfl, asked⟩
  rw [State.occur, State.trigger, if_pos accepted] at triggered
  exact triggered

/-- The earlier request has its compiler, and nobody else is there. -/
theorem exists_earlier :
    ∃ (task : Task Request Compiling) (clock : Nat), task.token.key = "k" ∧
      task.stage = .correlating ⟨earlier, begun, .attending⟩ ∧
      Arises (drive debounce statuses results) [] [⟨task, some (clock + 9)⟩] clock task.token
        begun.site := by
  let settings := Settings.recording (some (.ticks (debounce + 1))) statuses results
  let initial : State Site Unit Request Compiling := State.initial settings site
  have begins : (drive debounce statuses results).reach initial := .initial
  have scheduled := arises_trigger (reach_schedule begins (Or.inl rfl))
  have nobody := supersede_nobody (rfl : initial.ready = []) rfl "k"
  rw [nobody.1, nobody.2] at scheduled
  obtain ⟨clock, ripe⟩ := (scheduled.debounce rfl rfl).alone
  obtain ⟨move, world⟩ := start_earlier (debounce + 1) (Token.issue "k" 1)
  exact ⟨_, clock, rfl, rfl, ripe.start (Settings.recording_calm _ statuses results) rfl move world⟩

/-- The later one comes, and the earlier one has to go. -/
theorem exists_later :
    ∃ (task newest : Task Request Compiling) (clock : Nat),
      task.stage = .correlating ⟨earlier, begun, .attending⟩ ∧
      newest.request = later ∧ newest.stage = .scheduled ∧
      Arises (drive debounce statuses results)
        [.task task .cancelled, .task newest .elapsed] [] clock newest.token begun.site := by
  obtain ⟨task, clock, named, stage, arises⟩ := exists_earlier debounce statuses results
  obtain ⟨state, reached, ready, sleeping, _now, counts, _current, here⟩ := arises
  obtain ⟨queued, asleep⟩ := supersede_only named (Or.inr ⟨some (clock + 9), rfl⟩) ready sleeping
    counts
  have scheduled := arises_trigger (reach_schedule reached (Or.inr rfl))
  change Arises _ ((state.cancelKey "k").ready ++ _) (state.cancelKey "k").sleeping _ _ _
    at scheduled
  rw [queued, asleep, here] at scheduled
  exact ⟨task, _, _, stage, rfl, rfl, scheduled⟩

/-- It has its compiler when the one of the earlier is gone. -/
theorem exists_overtaken :
    ∃ (newest : Task Request Compiling) (clock : Nat) (due : Option Nat),
      newest.stage = .correlating ⟨later, overtaking, .attending⟩ ∧
      Arises (drive debounce statuses results) [] [⟨newest, due⟩] clock newest.token gone.site := by
  obtain ⟨task, ⟨token, request, _scheduled⟩, clock, stage, rfl, rfl, arises⟩ :=
    exists_later debounce statuses results
  let newest (stage : Stage Compiling) : Task Request Compiling := ⟨token, later, stage⟩
  let call (generation : Generation) (waiting : Waiting) : Task Request Compiling :=
    { task with stage := .correlating ⟨earlier, generation, waiting⟩ }
  obtain ⟨move, world⟩ := cancel_earlier (debounce + 1)
  have cancelled : Arises (drive debounce statuses results)
      [.task (newest .scheduled) .elapsed, .task (call begun (.hearing 2 .unwanted)) .elapsed] []
      clock token begun.site := arises.call stage move world
  let start := clock + (debounce + 1)
  have debounced : (Settings.recording (some (.ticks (debounce + 1))) statuses results).debounce =
      some (.ticks (debounce + 1)) := rfl
  have second : Arises (drive debounce statuses results)
      [.task (call begun (.hearing 2 .unwanted)) .elapsed]
      [⟨newest .debouncing, some start⟩] clock token begun.site :=
    cancelled.debounce debounced rfl
  have first : Arises (drive debounce statuses results)
      [.task (call begun (.hearing 1 .unwanted)) .elapsed]
      [⟨newest .debouncing, some start⟩] clock token begun.site := second.call rfl rfl rfl
  have last : Arises (drive debounce statuses results)
      [.task (call begun (.hearing 0 .unwanted)) .elapsed]
      [⟨newest .debouncing, some start⟩] clock token begun.site := first.call rfl rfl rfl
  obtain ⟨move, world⟩ := kill_earlier (debounce + 1)
  have asleep : Arises (drive debounce statuses results) []
      [⟨newest .debouncing, some start⟩, ⟨call killed .attending, some start⟩] clock token
      killed.site := last.call rfl move world
  have passes : clock < start := Nat.lt_add_of_pos_right (Nat.succ_pos debounce)
  obtain ⟨move, world⟩ := start_later (debounce + 1) token
  have started : Arises (drive debounce statuses results)
      [.task (call killed .attending) .elapsed]
      [⟨newest (.correlating ⟨later, overtaking, .attending⟩), some (start + 1)⟩] start token
      overtaking.site :=
    (asleep.wake_both passes).start (Settings.recording_calm _ statuses results) rfl move world
  obtain ⟨move, world⟩ := end_earlier (debounce + 1)
  exact ⟨_, start, _, rfl, started.leave rfl move world⟩

/-- Where killed compilers may be as slow to be gone as the debounce is long, copies get lost. -/
theorem not_copiesKept_slow {slowest : Option Nat}
    (slower : ∀ bound, slowest = some bound → debounce + 1 ≤ bound) :
    ¬ CopiesKept (.recording (some (.ticks (debounce + 1))) statuses results) slowest := by
  obtain ⟨newest, clock, due, stage, arises⟩ := exists_overtaken debounce statuses results
  obtain ⟨state, reached, _ready, sleeping, _now, _counts, _current, here⟩ := arises
  have within (process : Process) : ((slow (debounce + 1)).gone process).Within slowest :=
    fun bound slowest => ⟨debounce + 1, rfl, slower bound slowest⟩
  refine not_copiesKept_of_lost within reached ?_
  obtain ⟨process, works, missing⟩ := Option.map_eq_some_iff.mp source_gone
  have call : Compiling.compiler? ⟨later, overtaking, .attending⟩ = some process := works
  unfold copyLost
  rw [sleeping, here, List.any_cons, stage]
  simp only [call, Option.any_some, missing, Option.isNone_none, Bool.true_or]

end

end Overtaken

/-- From the start of a compiler until it has ended or has been killed, the file that it was told of
last holds the text of its call, if and only if killed compilers are gone before a debounce is over,
where there is one that ends. -/
theorem copiesKept_iff (debounce : Option Span) (slowest : Option Nat) (statuses results : Bool) :
    CopiesKept (.recording debounce statuses results) slowest ↔
      ∀ ticks, debounce = some (.ticks ticks) → ∃ bound, slowest = some bound ∧ bound < ticks := by
  constructor
  · rintro kept ticks rfl
    cases ticks with
    | zero => exact absurd kept (Overtaken.not_copiesKept_at_once statuses results slowest)
    | succ ticks =>
        by_contra slow
        refine Overtaken.not_copiesKept_slow ticks statuses results (fun bound same => ?_) kept
        by_contra fast
        exact slow ⟨bound, same, Nat.lt_of_not_le fast⟩
  · intro faster
    exact copiesKept_of_faster faster

/-- The copy of the later of two requests for one source is removed by the earlier one, whose
compiler has been killed, while its own compiler is still at work. -/
theorem copy_removed_by_earlier_call :
    let settings := Settings.recording (some (.ticks 0)) true true
    let script : List (Operation Request) :=
      [.trigger "k" (Path.parse "/W/main.c") Overtaken.earlier, .advance 1,
        .trigger "k" (Path.parse "/W/main.c") Overtaken.later, .advance 0]
    let state := performAll (compiling Unit {} .immediate)
      (State.initial settings Overtaken.site) script
    state.inFlight "k" = 1 ∧ state.world.runs.map Compile.Run.killed = [true, false] ∧
      Overtaken.copyLost state = true := by
  decide +kernel

end ListingAtlas.Session
