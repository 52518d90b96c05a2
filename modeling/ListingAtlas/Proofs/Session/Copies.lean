import ListingAtlas.Proofs.Session.Compiling
import ListingAtlas.Proofs.Session.Driven

/-!
The temporary copies of a session that compiles. Each call in flight has its own, next to the
source, and no other call of the session touches it: those of other keys have other sources, and
those of the same key are over before, wherever killed compilers are gone within a debounce.
-/

namespace ListingAtlas

namespace Session

open Compile (Generation Process Site Request Deed sourcePlace?)
open Workspace (SameDirectories)

variable {Note : Type}

/-! ### Calls and their copies -/

/-- A generation under way has its copy, which holds the text of its request. -/
structure Copying (first : Workspace) (request : Request) (generation : Generation) : Prop where
  copies : generation.Copies request first
  waits : ∀ ending, generation.stage ≠ .ended ending
  held : ∃ text place, request.text.toString? = some text ∧
    first.locate (request.copyIn first) = .ok place ∧
    generation.site.workspace.node? place = some (.file (Text.encodeUtf8 text))

section

variable {first : Workspace} {request : Request} {generation next : Generation}

/-- Deeds elsewhere leave it alone. -/
theorem Copying.frame (copying : Copying first request generation)
    (same : SameDirectories first generation.site.workspace) {site : Site} {deeds : List Deed}
    (world : site.workspace = deeds.foldl Deed.perform generation.site.workspace)
    (elsewhere : ∀ place, first.locate (request.copyIn first) = .ok place →
      ∀ deed ∈ deeds, first.locate deed.path ≠ .ok place) :
    Copying first request { generation with site } := by
  obtain ⟨copies, waits, text, place, encodable, leads, held⟩ := copying
  refine ⟨⟨copies.temporary, copies.arguments⟩, waits, text, place, encodable, leads, ?_⟩
  have notDirectory : generation.site.workspace.node? place ≠ some .directory := by
    rw [held]
    simp
  change site.workspace.node? place = _
  rw [world, Compile.node?_of_unreached notDirectory, held]
  intro deed member reached
  exact elsewhere place leads deed member ((Workspace.locate_iff_of_same same _ _).mp reached)

/-- The deeds of a generation that goes on are its compiler's and its own. -/
theorem path_of_goesOn (copies : generation.Copies request first)
    (spelled : (request.listingIn first).Spelled) (goesOn : generation.GoesOn next) :
    ∃ deeds : List Deed,
      next.site.workspace = deeds.foldl Deed.perform generation.site.workspace ∧
        ∀ deed ∈ deeds, deed.path = request.listingIn first ∨
          deed.path = request.copyIn first ∧ ∃ ending, next.stage = .ended ending := by
  obtain ⟨deeds, performed, own⟩ := goesOn.deeds
  refine ⟨deeds, performed, fun deed member => ?_⟩
  rcases own deed member with ⟨process, works, mine⟩ | ⟨removed, ended⟩
  · exact Or.inl (copies.path_of_process_deed spelled works mine)
  · exact Or.inr ⟨removed.trans copies.temporary, ended⟩

/-- Until it is over, the generation has its copy. -/
theorem Copying.goesOn (copying : Copying first request generation)
    (same : SameDirectories first generation.site.workspace)
    (spelled : (request.listingIn first).Spelled)
    (supported : SourceFile.isSupported request.source = true) (goesOn : generation.GoesOn next)
    (waits : ∀ ending, next.stage ≠ .ended ending) : Copying first request next := by
  obtain ⟨deeds, performed, own⟩ := path_of_goesOn copying.copies spelled goesOn
  have still : Copying first request { generation with site := next.site } := by
    refine copying.frame same performed ?_
    intro place leads deed member
    rcases own deed member with listing | ⟨_copy, ending, ended⟩
    · rw [listing]
      exact Compile.listing_elsewhere supported leads
    · exact absurd ended (waits ending)
  exact
    { copies :=
        { temporary := goesOn.temporary.trans copying.copies.temporary
          arguments := fun process works =>
            copying.copies.arguments process (goesOn.process process works) }
      waits
      held := still.held }

end

theorem Copying.of_same {first world : Workspace} {request : Request} {generation : Generation}
    (same : SameDirectories first world) (copying : Copying world request generation) :
    Copying first request generation := by
  obtain ⟨copies, waits, text, place, encodable, leads, held⟩ := copying
  rw [Compile.copyIn_of_same same] at leads
  exact ⟨copies.of_same same, waits, text, place, encodable,
    (Workspace.locate_iff_of_same same _ _).mp leads, held⟩

/-- A generation that does not end at once has begun with its text in its copy. -/
theorem copying_begin {site : Site} {request : Request}
    (waits : ∀ ending, (Generation.begin site request).stage ≠ .ended ending) :
    Copying site.workspace request (Generation.begin site request) := by
  rcases Generation.begin_stage site request with ⟨process, starting⟩ | ⟨ending, ended⟩
  · exact ⟨Generation.begin_copies site request, waits, (Generation.begin_starting starting).2⟩
  · exact absurd ended (waits ending)

/-- The requests that may be triggered under each key: all paths are spelled by texts, and requests
of different keys have sources at different places. -/
structure WellPlaced (workspace : Workspace) (requests : String → Request → Prop) : Prop where
  rooted : workspace.workingDirectory.isAbsolute = true
  directory : workspace.workingDirectory.Spelled
  source : ∀ key request, requests key request → request.source.Spelled
  build : ∀ key request, requests key request → request.buildDirectory.Spelled
  apart : ∀ key other request another, requests key request → requests other another →
    key ≠ other → ∀ place, sourcePlace? workspace request.source = some place →
      sourcePlace? workspace another.source ≠ some place

theorem WellPlaced.listing_spelled {workspace : Workspace} {requests : String → Request → Prop}
    (placed : WellPlaced workspace requests) {key : String} {request : Request}
    (asked : requests key request) : (request.listingIn workspace).Spelled :=
  Path.Spelled.listing (placed.directory.join (placed.source key request asked))
    (placed.directory.join (placed.build key request asked))

/-- Each call in flight has its copy. -/
structure Copies (first : Workspace) (requests : String → Request → Prop)
    (state : State Site Note Request Compiling) : Prop where
  same : SameDirectories first state.world.workspace
  asked : ∀ task place, Seats state task place →
    requests task.token.key task.request ∧ SourceFile.isSupported task.request.source = true
  copying : ∀ task place compiling, Seats state task place →
    task.stage = .correlating compiling →
      Copying first task.request { compiling.generation with site := state.world }

section

variable {first : Workspace} {requests : String → Request → Prop}
  {before after state : State Site Note Request Compiling}

theorem Copies.of_sublist (copies : Copies first requests before)
    (world : after.world = before.world) (ready : after.ready.Sublist before.ready)
    (sleeping : after.sleeping.Sublist before.sleeping) : Copies first requests after where
  same := by
    rw [world]
    exact copies.same
  asked := fun task place seats => copies.asked task place (seats.of_sublist ready sleeping)
  copying := by
    intro task place compiling seats stage
    rw [world]
    exact copies.copying task place compiling (seats.of_sublist ready sleeping) stage

/-- Calls and time leave all copies alone. -/
theorem Copies.steady (copies : Copies first requests before)
    {occurrence : Occurrence Site Request} (steady : State.Steady before after occurrence)
    (apt : ∀ key source request, occurrence = .trigger key source request →
      source = request.source ∧ requests key request) : Copies first requests after where
  same := by
    rw [steady.world]
    exact copies.same
  asked := by
    intro task place seats
    rcases steady.seats task place seats with ⟨former, kept⟩ | ⟨key, source, request, call, ok, rfl⟩
    · exact copies.asked task former kept
    · obtain ⟨rfl, asked⟩ := apt key source request call
      exact ⟨asked, ok⟩
  copying := by
    intro task place compiling seats stage
    rw [steady.world]
    rcases steady.seats task place seats with ⟨former, kept⟩ | ⟨key, source, request, call, ok, rfl⟩
    · exact copies.copying task former compiling kept stage
    · cases stage

/-- A stretch that changes no more than the own copy and the own listing leaves the copies of other
keys alone. -/
theorem Copies.led (placed : WellPlaced first requests) (copies : Copies first requests before)
    {task : Task Request Compiling} {move : Move Compiling} {seat : Place Request Compiling}
    (asked : requests task.token.key task.request)
    (supported : SourceFile.isSupported task.request.source = true)
    (alone : ∀ other place, Seats before other place → other.stage.phase = .working →
      other.token.key ≠ task.token.key)
    (moved : Moved before after task.token seat) (led : Led before.clock task move seat)
    (touched : ∃ deeds : List Deed,
      after.world.workspace = deeds.foldl Deed.perform before.world.workspace ∧
        ∀ deed ∈ deeds, deed.path = task.request.listingIn first ∨
          deed.path = task.request.copyIn first)
    (mine : ∀ ticks inner, move = .wait ticks inner →
      Copying first task.request { inner.generation with site := after.world }) :
    Copies first requests after := by
  obtain ⟨deeds, world, own⟩ := touched
  have seated {other : Task Request Compiling} {place : Place Request Compiling}
      (seats : Seats after other place) : Seats before other place ∨
        ∃ ticks inner, move = .wait ticks inner ∧
          other = { task with stage := .correlating inner } := by
    refine (moved.seats seats).imp_right fun put => ?_
    rw [put] at seats
    cases led with
    | wait ticks inner => exact ⟨ticks, inner, rfl, seats.of_waiting⟩
    | finish ending outcome => cases seats
  refine ⟨?_, ?_, ?_⟩
  · rw [world]
    exact copies.same.trans (Deed.performAll_same before.world.workspace deeds)
  · intro other place seats
    rcases seated seats with kept | ⟨ticks, inner, _move, rfl⟩
    · exact copies.asked other place kept
    · exact ⟨asked, supported⟩
  · intro other place compiling seats stage
    rcases seated seats with kept | ⟨ticks, inner, waits, rfl⟩
    · have known := copies.asked other place kept
      have different := alone other place kept (by rw [stage]; rfl)
      refine (copies.copying other place compiling kept stage).frame copies.same world ?_
      intro file leads deed member
      rcases own deed member with listing | copy
      · rw [listing]
        exact Compile.listing_elsewhere known.2 leads
      · rw [copy]
        exact Compile.copies_apart placed.rooted
          (placed.apart _ _ _ _ known.1 asked different) leads
    · cases stage
      exact mine ticks compiling waits

/-- A call begins with its copy, and changes nothing else. -/
theorem Copies.started (placed : WellPlaced first requests) {environment : Environment}
    {pace : Pace} (copies : Copies first requests before) {task : Task Request Compiling}
    {seat : Place Request Compiling} (asked : requests task.token.key task.request)
    (supported : SourceFile.isSupported task.request.source = true)
    (alone : ∀ other place, Seats before other place → other.stage.phase = .working →
      other.token.key ≠ task.token.key)
    (moved : Moved before after task.token seat)
    (led : Led before.clock task (startCompiling environment pace before.world task.request
      task.token : Progress Site Note Compiling).move seat)
    (world : after.world = (startCompiling environment pace before.world task.request
      task.token : Progress Site Note Compiling).world) : Copies first requests after := by
  rcases startCompiling_serves Note environment pace before.world task.request task.token with
    ⟨same, never⟩ | ⟨next, serves⟩
  · refine copies.led placed asked supported alone moved led
      ⟨[], by rw [world, same]; rfl, fun deed member => by cases member⟩ ?_
    intro ticks inner move
    exact absurd move (never ticks inner)
  · let generation := Generation.begin before.world task.request
    have opened := Generation.opening_workspace before.world task.request 0
    have same : SameDirectories first generation.site.workspace := by
      rw [opened]
      exact copies.same.trans (Deed.performAll_same _ _)
    have begun := (Generation.begin_copies before.world task.request).of_same copies.same
    have spelled := placed.listing_spelled asked
    obtain ⟨deeds, performed, own⟩ := path_of_goesOn begun spelled serves.goesOn
    have left : after.world = next.site := world.trans serves.world
    refine copies.led placed asked supported alone moved led
      ⟨Compile.openingDeeds before.world task.request 0 ++ deeds, ?_, ?_⟩ ?_
    · rw [left, performed, opened, List.foldl_append]
    · intro deed member
      rcases List.mem_append.mp member with opens | later
      · rw [Compile.path_of_opening_deed opens, Compile.copyIn_of_same copies.same]
        exact Or.inr rfl
      · exact (own deed later).imp_right And.left
    · intro ticks inner move
      obtain ⟨reached, waits⟩ := serves.waits ticks inner move
      have alive (ending : Compile.Ending) : generation.stage ≠ .ended ending := by
        intro ended
        obtain ⟨last, stops⟩ := serves.goesOn.ended ⟨ending, ended⟩
        exact waits last stops
      rw [reached, left]
      exact ((copying_begin alive).of_same copies.same).goesOn same spelled supported
        serves.goesOn waits

/-- A call that goes on keeps its copy until it is over, and changes nothing else but its listing. -/
theorem Copies.resumed (placed : WellPlaced first requests) {environment : Environment}
    {pace : Pace} (copies : Copies first requests before) {task : Task Request Compiling}
    {wake : Wake} {inner : Compiling} {seat : Place Request Compiling}
    (asked : requests task.token.key task.request)
    (supported : SourceFile.isSupported task.request.source = true)
    (held : Copying first task.request { inner.generation with site := before.world })
    (alone : ∀ other place, Seats before other place → other.stage.phase = .working →
      other.token.key ≠ task.token.key)
    (moved : Moved before after task.token seat)
    (led : Led before.clock task (resumeCompiling environment pace before.world inner wake :
      Progress Site Note Compiling).move seat)
    (world : after.world = (resumeCompiling environment pace before.world inner wake :
      Progress Site Note Compiling).world) : Copies first requests after := by
  obtain ⟨next, serves⟩ : ∃ next, Serves { inner.generation with site := before.world } next
      (resumeCompiling environment pace before.world inner wake : Progress Site Note Compiling) :=
    exists_serves environment pace before.world inner wake held.waits
  have spelled := placed.listing_spelled asked
  obtain ⟨deeds, performed, own⟩ := path_of_goesOn held.copies spelled serves.goesOn
  have left : after.world = next.site := world.trans serves.world
  refine copies.led placed asked supported alone moved led ⟨deeds, ?_, ?_⟩ ?_
  · rw [left, performed]
  · intro deed member
    exact (own deed member).imp_right And.left
  · intro ticks reached move
    obtain ⟨same, waits⟩ := serves.waits ticks reached move
    rw [same, left]
    exact held.goesOn copies.same spelled supported serves.goesOn waits

/-- A turn of a task keeps all copies, if no other call of its key is in flight when its correlator
is called. -/
theorem Copies.turned (placed : WellPlaced first requests) {environment : Environment}
    {pace : Pace} (copies : Copies first requests before) {task : Task Request Compiling}
    {wake : Wake} (asked : requests task.token.key task.request)
    (supported : SourceFile.isSupported task.request.source = true)
    (held : ∀ compiling, task.stage = .correlating compiling →
      Copying first task.request { compiling.generation with site := before.world })
    (alone : task.stage.phase = .working ∨
        wake = .elapsed ∧ task.stage = .debouncing ∧
          before.registry.isCurrent task.token = true →
      ∀ other place, Seats before other place → other.stage.phase = .working →
        other.token.key ≠ task.token.key)
    (turned : Turned (compiling Note environment pace).toBehaviour before after task wake) :
    Copies first requests after := by
  cases turned with
  | early stage world status seats =>
      refine ⟨?_, ?_, ?_⟩
      · rw [world]
        exact copies.same
      · intro other place seated
        rcases seats other place seated with kept | rfl
        · exact copies.asked other place kept
        · exact ⟨asked, supported⟩
      · intro other place compiling seated correlating
        rw [world]
        rcases seats other place seated with kept | rfl
        · exact copies.copying other place compiling kept correlating
        · cases correlating
  | interrupted _raised _stage _elapsed world seats =>
      refine ⟨?_, fun other place seated => copies.asked other place (seats other place seated), ?_⟩
      · rw [world]
        exact copies.same
      · intro other place compiling seated correlating
        rw [world]
        exact copies.copying other place compiling (seats other place seated) correlating
  | start seat moved stage elapsed current led world status =>
      exact copies.started placed asked supported (alone (Or.inr ⟨elapsed, stage, current⟩)) moved
        led world
  | resume seat moved inner stage led world status =>
      exact copies.resumed placed asked supported (held inner stage)
        (alone (Or.inl (by rw [stage]; rfl))) moved led world

/-- A call that begins or goes on has its key for itself. -/
theorem OneInFlight.alone {World Note Request Inner : Type}
    {behaviour : Behaviour World Note Request Inner} {settings : Settings}
    {state : State World Note Request Inner} (one : OneInFlight behaviour settings)
    (reaches : Reaches behaviour settings state) {task : Task Request Inner} {wake : Wake}
    (found : state.ready[0]? = some (.task task wake))
    (calls : task.stage.phase = .working ∨
      wake = .elapsed ∧ task.stage = .debouncing ∧ state.registry.isCurrent task.token = true)
    {other : Task Request Inner} {place : Place Request Inner}
    (seats : Seats (state.taken 0) other place) (working : other.stage.phase = .working) :
    other.token.key ≠ task.token.key := by
  intro sameKey
  have bound := one state reaches (.turn 0) rfl task.token.key
  have counted := (state.taken_roster found).countP_eq fun entry =>
    entry.1.key == task.token.key && entry.2 == .working
  have flies : 0 < (state.taken 0).inFlight task.token.key := by
    unfold State.inFlight
    rw [List.countP_pos_iff]
    refine ⟨_, seats.mem_roster, ?_⟩
    rw [sameKey, working, beq_self_eq_true]
    rfl
  rw [List.countP_cons] at counted
  change state.inFlight task.token.key = (state.taken 0).inFlight task.token.key + _ at counted
  rcases calls with goesOn | ⟨rfl, stage, current⟩
  · have itself : (task.token.key == task.token.key && task.stage.phase == .working) = true := by
      rw [goesOn, beq_self_eq_true]
      rfl
    rw [if_pos itself] at counted
    omega
  · have begins : state.begins task.token.key (.turn 0 : Occurrence World Request) = 1 := by
      simp only [State.begins, found]
      exact if_pos ⟨trivial, Stage.isDebouncing_iff.mpr stage, current⟩
    omega

/-! ### Sessions that compile -/

/-- Triggers are those of requests for their sources, and nobody outside changes the files. -/
def Occurrence.Within (requests : String → Request → Prop) : Occurrence Site Request → Prop
  | .trigger key source request => source = request.source ∧ requests key request
  | .outside _ => False
  | _ => True

/-- The states that a session can reach which compiles on a site. -/
inductive Proceeds (environment : Environment) (pace : Pace) (settings : Settings) (site : Site)
    (requests : String → Request → Prop) : State Site Note Request Compiling → Prop
  | initial : Proceeds environment pace settings site requests (State.initial settings site)
  | next {state : State Site Note Request Compiling} (occurrence : Occurrence Site Request)
      (before : Proceeds environment pace settings site requests state)
      (inTurn : occurrence.InTurn state) (within : occurrence.Within requests) :
      Proceeds environment pace settings site requests
        (state.occur (compiling Note environment pace).toBehaviour occurrence)

section

variable {environment : Environment} {pace : Pace} {settings : Settings} {site : Site}

theorem Proceeds.reaches (proceeds : Proceeds environment pace settings site requests state) :
    Reaches (compiling Note environment pace).toBehaviour settings state := by
  induction proceeds with
  | initial => exact .initial site
  | next occurrence _before inTurn _within ih => exact ih.next occurrence inTurn

theorem Proceeds.copies (placed : WellPlaced site.workspace requests)
    (one : OneInFlight (compiling Note environment pace).toBehaviour settings)
    (proceeds : Proceeds environment pace settings site requests state) :
    Copies site.workspace requests state := by
  induction proceeds with
  | initial =>
      refine ⟨SameDirectories.refl _, ?_, ?_⟩
      · intro task place seats
        cases seats with
        | queued present => cases present
        | asleep present => cases present
      · intro task place compiling seats
        cases seats with
        | queued present => cases present
        | asleep present => cases present
  | @next state occurrence before inTurn within copies =>
      cases spoken : speaker? state occurrence with
      | none =>
          refine copies.steady (State.occur_steady _ inTurn spoken ?_) ?_
          · rintro world rfl
            exact within
          · rintro key source request rfl
            exact within
      | some task =>
          obtain ⟨position, wake, rfl, found⟩ := speaker?_eq_some spoken
          have first : position = 0 := inTurn
          rw [first] at found
          have here : Seats state task (.queued task wake) :=
            .queued (List.mem_of_getElem? found)
          have taken : Copies site.workspace requests (state.taken 0) :=
            copies.of_sublist rfl (List.eraseIdx_sublist _ _) (List.Sublist.refl _)
          have known := copies.asked task _ here
          rw [first, State.occur_turn found]
          exact taken.turned placed known.1 known.2
            (fun compiling stage => copies.copying task _ compiling here stage)
            (fun calls other place => one.alone before.reaches found calls)
            (State.runTask_turned _ (state.taken 0) task wake)

end

/-- The compiler of a call, from its start until it has ended or has been killed. -/
def Compiling.compiler? (compiling : Compiling) : Option Process :=
  match compiling.waiting with
  | .hearing _ (.ended _) => none
  | _ => compiling.generation.stage.process?

theorem Compiling.process?_of_compiler? {compiling : Compiling} {process : Process}
    (works : compiling.compiler? = some process) :
    compiling.generation.stage.process? = some process := by
  unfold compiler? at works
  split at works
  · cases works
  · exact works

/-- The file that the compiler of a call was told of last holds the text of the call. -/
theorem Copying.holds {first : Workspace} {requests : String → Request → Prop}
    (placed : WellPlaced first requests) {key : String} {request : Request}
    (asked : requests key request) {generation : Generation}
    (same : SameDirectories first generation.site.workspace)
    (copying : Copying first request generation) {process : Process}
    (works : generation.stage.process? = some process) :
    ∃ text, request.text.toString? = some text ∧
      Site.sourceOf generation.site.workspace process.arguments =
        some (Text.encodeUtf8 text) := by
  obtain ⟨copies, _waits, text, place, encodable, leads, held⟩ := copying
  obtain ⟨kept, arguments⟩ := copies.arguments process works
  have spelled : (request.copyIn first).Spelled :=
    (placed.directory.join (placed.source key request asked)).temporaryCopy
  refine ⟨text, encodable, Site.sourceOf_eq spelled ?_ ?_⟩
  · rw [arguments]
    exact Compile.getLast?_listingArguments _ _ _
  · have found : generation.site.workspace.locate (request.copyIn first) = .ok place :=
      (Workspace.locate_iff_of_same same _ _).mpr leads
    unfold Workspace.lookUp
    simp only [found, held]

/-- Whether something takes no longer than some ticks, if there is such a bound. -/
def Delay.Within (delay : Delay) (slowest : Option Nat) : Prop :=
  ∀ bound, slowest = some bound → ∃ ticks, delay.ticks = some ticks ∧ ticks ≤ bound

/-- From the start of a compiler until it has ended or has been killed, the file that it was told of
last holds the text of its call: whatever is triggered, cancelled or closed, however long compilers
take to start and to end, for all requests that are well placed, if killed compilers are gone within
a given time. -/
def CopiesKept (settings : Settings) (slowest : Option Nat) : Prop :=
  ∀ (Note : Type) (environment : Environment) (pace : Pace) (site : Site)
    (requests : String → Request → Prop),
    (∀ process, (pace.gone process).Within slowest) → WellPlaced site.workspace requests →
      ∀ state : State Site Note Request Compiling,
        Proceeds environment pace settings site requests state →
          ∀ task place compiling process, Seats state task place →
            task.stage = .correlating compiling → compiling.compiler? = some process →
              ∃ text, task.request.text.toString? = some text ∧
                Site.sourceOf state.world.workspace process.arguments =
                  some (Text.encodeUtf8 text)

/-- They are, wherever that time is less than the debounce. -/
theorem copiesKept_of_faster {settings : Settings} {slowest : Option Nat}
    (faster : ∀ ticks, settings.debounce = some (.ticks ticks) →
      ∃ bound, slowest = some bound ∧ bound < ticks) : CopiesKept settings slowest := by
  intro Note environment pace site requests gone placed state proceeds task place compiling
    process seats stage works
  have reaps (ticks : Nat) (debounced : settings.debounce = some (.ticks ticks)) :
      pace.Reaps ticks := by
    intro process
    obtain ⟨bound, slow, less⟩ := faster ticks debounced
    obtain ⟨count, takes, within⟩ := gone process bound slow
    exact ⟨count, takes, Nat.lt_of_le_of_lt within less⟩
  have copies := proceeds.copies placed (oneInFlight_compiling Note environment reaps)
  exact (copies.copying task place compiling seats stage).holds placed
    (copies.asked task place seats).1 copies.same (Compiling.process?_of_compiler? works)

end

end Session

end ListingAtlas
