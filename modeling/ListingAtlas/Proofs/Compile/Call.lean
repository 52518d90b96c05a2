import ListingAtlas.Proofs.Compile.Breaking
import ListingAtlas.Proofs.Compile.Event

/-!
How calls end that run a compiler. Of what comes to them the first decides, and unless the compiler
has ended, it is killed and waited for. No call leaves a compiler that still runs.
-/

namespace ListingAtlas.Compile

open Number (Binary64)

/-! ### What is to be shown -/

/-- How a call ends, by what comes of the start of its process. A process that is killed is waited
for until it is gone or the call is cancelled, be it once more. -/
inductive EndsAs (launched : Except Failure Script) (limit : Option Limit)
    (moments : List Moment) : Call.Ending → Prop
  | refused {failure : Failure} (refuses : launched = .error failure) :
      EndsAs launched limit moments (.failed failure)
  | returned {script : Script} {rest : List Moment} (runs : launched = .ok script)
      (first : script.ComesFirst limit .ended moments rest) (succeeds : script.status = 0) :
      EndsAs launched limit moments (.returned (Text.decodeUtf8 (script.output.getD [])))
  | exited {script : Script} {rest : List Moment} (runs : launched = .ok script)
      (first : script.ComesFirst limit .ended moments rest) (fails : script.status ≠ 0) :
      EndsAs launched limit moments
        (.failed (.compilerExited script.status (Text.decodeUtf8 (script.output.getD []))))
  | timedOut {script : Script} {rest : List Moment} {value : Binary64}
      (runs : launched = .ok script) (limited : limit = some (.seconds value))
      (first : script.ComesFirst limit .expired moments rest)
      (reaped : Precedes .reaped .cancelled rest) :
      EndsAs launched limit moments (.failed (.compilerTimedOut value))
  | cancelled {script : Script} {rest : List Moment} (runs : launched = .ok script)
      (first : script.ComesFirst limit .cancelled moments rest)
      (waited : .reaped ∈ rest ∨ .cancelled ∈ rest) :
      EndsAs launched limit moments .cancelled
  | interrupted {script : Script} {rest : List Moment} (runs : launched = .ok script)
      (first : script.ComesFirst limit .expired moments rest)
      (cut : Precedes .cancelled .reaped rest) :
      EndsAs launched limit moments .cancelled

/-- A started process runs until its time is over or it is killed. -/
def Run.RunsAt (run : Run) (script : Script) (clock : Nat) : Prop :=
  run.killed = false ∧ ∀ ticks, script.duration = some (.ticks ticks) → clock < ticks

/-- The limit, if there is one, is measured. Where processes are rehearsed, so is the time that the
process takes, and it can leave its listing, if it has one. -/
structure Measured (site : Site) (arguments : List String) (limit : Option Limit) : Prop where
  limit : limit = none ∨ ∃ value, limit = some (.seconds value)
  duration : site.host = .rehearsal → ∀ script, site.nextBehaviour.1 = .runs script →
    script.duration ≠ some .immeasurable
  listing : site.host = .rehearsal → ∀ script listing path, site.nextBehaviour.1 = .runs script →
    script.listing = some listing → listingPath? arguments = some path →
      ∃ left, site.workspace.writeBytes (Path.parse path) (writtenListing arguments listing) =
        .ok left

/-! ### Calls after moments -/

namespace Call

/-- Where a call is, whatever its clock says. -/
structure At (call : Call) (site : Site) (stage : Stage) : Prop where
  site : call.site = site
  stage : call.stage = stage

variable {call : Call} {site : Site} {moment : Moment} {moments rest : List Moment}

theorem after_append (call : Call) (first second : List Moment) :
    call.after (first ++ second) = (call.after first).after second :=
  List.foldl_append

theorem clock_turn (call : Call) : call.turn.clock = call.clock := by
  unfold turn
  split
  · split
    · split <;> rfl
    · rfl
  · rfl

theorem clock_pass (call : Call) (moment : Moment) :
    (call.pass moment).clock = call.clock + [moment].count .tick := by
  cases moment with
  | turn => exact call.clock_turn
  | tick => exact congrArg (· + 1) call.clock_turn
  | cancelled =>
      change call.cancel.clock = call.clock
      unfold cancel
      split <;> rfl
  | reaped =>
      change call.reap.clock = call.clock
      unfold reap
      split <;> rfl

theorem clock_after (call : Call) (moments : List Moment) :
    (call.after moments).clock = call.clock + moments.count .tick := by
  induction moments generalizing call with
  | nil => rfl
  | cons moment moments ih =>
      change ((call.pass moment).after moments).clock = _
      rw [ih, clock_pass, Nat.add_assoc, ← List.count_append, List.singleton_append]

/-- A stage that no moment of some ends is kept through them all. -/
theorem At.after_of_pass {stage : Stage}
    (keeps : ∀ call : Call, call.At site stage → ∀ moment ∈ moments,
      (call.pass moment).At site stage)
    (here : call.At site stage) : (call.after moments).At site stage := by
  induction moments generalizing call with
  | nil => exact here
  | cons moment moments ih =>
      have passed := keeps call here moment List.mem_cons_self
      refine ih (fun call here other member => ?_) passed
      exact keeps call here other (List.mem_cons_of_mem moment member)

theorem At.of_turn {stage : Stage} (gives : moment = .turn ∨ moment = .tick)
    (turned : call.turn.At site stage) : (call.pass moment).At site stage := by
  rcases gives with rfl | rfl
  · exact turned
  · exact ⟨turned.site, turned.stage⟩

theorem At.after_ended {ending : Ending} (here : call.At site (.ended ending))
    (moments : List Moment) : (call.after moments).At site (.ended ending) := by
  refine At.after_of_pass (fun call here moment _member => ?_) here
  have turned : call.turn = call := by simp only [turn, here.stage]
  cases moment with
  | turn => exact At.of_turn (Or.inl rfl) (turned.symm ▸ here)
  | tick => exact At.of_turn (Or.inr rfl) (turned.symm ▸ here)
  | cancelled => simpa only [pass, cancel, here.stage] using here
  | reaped => simpa only [pass, reap, here.stage] using here

/-! ### Calls that have killed their process -/

section

variable {ending : Ending} (here : call.At site (.reaping ending))

include here

theorem At.after_unreaped (unreaped : .reaped ∉ moments) (uncancelled : .cancelled ∉ moments) :
    (call.after moments).At site (.reaping ending) := by
  refine At.after_of_pass (fun call here moment member => ?_) here
  have turned : call.turn = call := by simp only [turn, here.stage]
  cases moment with
  | turn => exact At.of_turn (Or.inl rfl) (turned.symm ▸ here)
  | tick => exact At.of_turn (Or.inr rfl) (turned.symm ▸ here)
  | cancelled => exact absurd member uncancelled
  | reaped => exact absurd member unreaped

theorem At.after_reaped (reaped : Precedes .reaped .cancelled moments) :
    (call.after moments).At site (.ended ending) := by
  obtain ⟨before, after, rfl, unreaped, uncancelled⟩ := reaped
  have still := here.after_unreaped unreaped uncancelled
  have gone : ((call.after before).pass .reaped).At site (.ended ending) :=
    ⟨by simp only [pass, reap, still.stage, still.site], by simp only [pass, reap, still.stage]⟩
  rw [after_append]
  exact gone.after_ended after

theorem At.after_cut (cut : Precedes .cancelled .reaped moments) :
    (call.after moments).At site (.ended .cancelled) := by
  obtain ⟨before, after, rfl, uncancelled, unreaped⟩ := cut
  have still := here.after_unreaped unreaped uncancelled
  have left : ((call.after before).pass .cancelled).At site (.ended .cancelled) :=
    ⟨by simp only [pass, cancel, still.stage, still.site], by simp only [pass, cancel, still.stage]⟩
  rw [after_append]
  exact left.after_ended after

theorem At.ended_of_reaping {last : Ending} (ended : (call.after moments).stage = .ended last) :
    (last = ending ∧ Precedes .reaped .cancelled moments) ∨
      (last = .cancelled ∧ Precedes .cancelled .reaped moments) := by
  rcases precedes_or .reaped .cancelled moments with ⟨unreaped, uncancelled⟩ | reaped | cut
  · rw [(here.after_unreaped unreaped uncancelled).stage] at ended
    cases ended
  · rw [(here.after_reaped reaped).stage] at ended
    exact Or.inl ⟨(Stage.ended.inj ended).symm, reaped⟩
  · rw [(here.after_cut cut).stage] at ended
    exact Or.inr ⟨(Stage.ended.inj ended).symm, cut⟩

theorem At.site_of_reaping (moments : List Moment) : (call.after moments).site = site := by
  rcases precedes_or .reaped .cancelled moments with ⟨unreaped, uncancelled⟩ | reaped | cut
  · exact (here.after_unreaped unreaped uncancelled).site
  · exact (here.after_reaped reaped).site
  · exact (here.after_cut cut).site

end

/-! ### Calls that wait -/

/-- What a call ends with when an event makes it kill its process. -/
inductive Kills (limit : Option Limit) : Event → Ending → Prop
  | expired {value : Binary64} (limited : limit = some (.seconds value)) :
      Kills limit .expired (.failed (.compilerTimedOut value))
  | cancelled : Kills limit .cancelled .cancelled

section

variable {script : Script} {limit : Option Limit} {watch : Watch}
  (tells : Tells script limit watch.verdict watch.ticks)

include tells

theorem isOver_iff_due (clock : Nat) :
    isOver watch.ticks clock = true ↔ script.EndsBy limit clock ∨ script.ExpiresBy limit clock := by
  generalize watch.verdict = verdict at tells
  cases tells with
  | ends elapses never => rw [elapses, or_iff_left (never clock)]
  | expires limited elapses never => rw [elapses, or_iff_right (never clock)]

theorem verdict_of_endsBy {clock : Nat} (ends : script.EndsBy limit clock) :
    watch.verdict = .ends := by
  generalize watch.verdict = verdict at tells
  cases tells with
  | ends elapses never => rfl
  | expires limited elapses never => exact absurd ends (never clock)

theorem verdict_of_expiresBy {clock : Nat} (expires : script.ExpiresBy limit clock)
    {value : Binary64} (limited : limit = some (.seconds value)) :
    watch.verdict = .expires (.compilerTimedOut value) := by
  generalize watch.verdict = verdict at tells
  cases tells with
  | ends elapses never => exact absurd expires (never clock)
  | expires same elapses never =>
      cases limited.symm.trans same
      rfl

variable (here : call.At site (.waiting watch))

include here

theorem At.pass_unbrought
    (unbrought : ∀ event, ¬ script.Brings limit call.clock moment event) :
    (call.pass moment).At site (.waiting watch) := by
  have turned (gives : moment = .turn ∨ moment = .tick) : call.turn = call := by
    have waits : ¬ isOver watch.ticks call.clock = true := by
      rw [isOver_iff_due tells]
      rintro (ends | expires)
      · exact unbrought .ended ⟨gives, ends⟩
      · exact unbrought .expired ⟨gives, expires⟩
    simp only [turn, here.stage, waits, Bool.false_eq_true, if_false]
  cases moment with
  | turn => exact At.of_turn (Or.inl rfl) ((turned (Or.inl rfl)).symm ▸ here)
  | tick => exact At.of_turn (Or.inr rfl) ((turned (Or.inr rfl)).symm ▸ here)
  | cancelled => exact absurd rfl (unbrought .cancelled)
  | reaped => simpa only [pass, reap, here.stage] using here

theorem At.after_uneventful (starts : call.clock = 0)
    (quiet : script.Uneventful limit moments) : (call.after moments).At site (.waiting watch) := by
  induction moments using List.reverseRecOn with
  | nil => exact here
  | append_singleton moments moment ih =>
      obtain ⟨quiet, unbrought⟩ := Script.uneventful_concat.mp quiet
      rw [after_append]
      apply (ih quiet).pass_unbrought tells
      rw [clock_after, starts, Nat.zero_add]
      exact unbrought

theorem At.pass_ended (brought : script.Brings limit call.clock moment .ended) :
    (call.pass moment).At (watch.conclude site).1 (.ended (.ofOutcome (watch.conclude site).2)) := by
  obtain ⟨gives, ends⟩ := brought
  apply At.of_turn gives
  have elapsed := (isOver_iff_due tells call.clock).mpr (Or.inl ends)
  have verdict := verdict_of_endsBy tells ends
  rw [← here.site]
  constructor
  · simp only [turn, here.stage, elapsed, verdict, if_true]
  · simp only [turn, here.stage, elapsed, verdict, if_true]

theorem At.pass_killed {event : Event} {ending : Ending} (kills : Kills limit event ending)
    (brought : script.Brings limit call.clock moment event) :
    (call.pass moment).At (site.kill watch.process) (.reaping ending) := by
  rw [← here.site]
  cases kills with
  | expired limited =>
      obtain ⟨gives, expires⟩ := brought
      apply At.of_turn gives
      have elapsed := (isOver_iff_due tells call.clock).mpr (Or.inr expires)
      have verdict := verdict_of_expiresBy tells expires limited
      constructor
      · simp only [turn, here.stage, elapsed, verdict, if_true, kill]
      · simp only [turn, here.stage, elapsed, verdict, if_true, kill]
  | cancelled =>
      obtain rfl : moment = .cancelled := brought
      constructor
      · simp only [pass, cancel, here.stage, kill]
      · simp only [pass, cancel, here.stage, kill]

/-- After the moment that brings the first event, the call goes on with the rest. -/
theorem At.after_first (starts : call.clock = 0) {event : Event}
    (first : script.ComesFirst limit event moments rest) :
    ∃ (waiting : Call) (moment : Moment), waiting.At site (.waiting watch) ∧
      script.Brings limit waiting.clock moment event ∧
      call.after moments = (waiting.pass moment).after rest := by
  obtain ⟨before, moment, rfl, quiet, brought⟩ := first
  refine ⟨call.after before, moment, here.after_uneventful tells starts quiet, ?_,
    after_append call before _⟩
  rw [clock_after, starts, Nat.zero_add]
  exact brought

end

end Call

/-! ### Calls from their start -/

theorem Site.exists_run (site : Site) (program : String) (arguments : List String)
    (directory : String) :
    ∃ run : Run, (site.start program arguments directory).1.runs = site.runs ++ [run] ∧
      run.killed = false := by
  exact ⟨_, rfl, rfl⟩

theorem Site.launch_of_rehearsal {site : Site} (rehearsed : site.host = .rehearsal)
    (program : String) (arguments : List String) (directory : String) :
    site.launch program arguments directory = site.nextBehaviour.1.launch := by
  unfold Site.launch
  rw [rehearsed]

theorem Behaviour.launch_eq_ok_iff {behaviour : Behaviour} {script : Script} :
    behaviour.launch = .ok script ↔ behaviour = .runs script := by
  cases behaviour <;> simp [Behaviour.launch]

namespace Call

/-- What a call ends with when its process has ended. -/
def endingOf (script : Script) : Ending :=
  let output := Text.decodeUtf8 (script.output.getD [])
  if script.status == 0 then .returned output
  else .failed (.compilerExited script.status output)

variable {site : Site} {program directory : String} {arguments : List String}
  {limit : Option Limit} {script : Script} {moments rest : List Moment}

theorem clock_begin : (begin site program arguments directory limit).clock = 0 := by
  unfold begin
  split <;> rfl

theorem begin_of_refuses {failure : Failure}
    (refuses : site.launch program arguments directory = .error failure) :
    (begin site program arguments directory limit).At (site.start program arguments directory).1
      (.ended (.failed failure)) := by
  unfold begin startWatch Site.start
  rw [refuses]
  exact ⟨rfl, rfl⟩

/-- A call waits for its process, which is the newest and can leave its listing. -/
structure Awaits (call : Call) (before : List Run) (script : Script) (limit : Option Limit)
    (watch : Watch) : Prop where
  clock : call.clock = 0
  stage : call.stage = .waiting watch
  scripted : watch.process.script = script
  newest : watch.process.index = before.length
  tells : Tells script limit watch.verdict watch.ticks
  run : ∃ run, call.site.runs = before ++ [run] ∧ run.killed = false
  leaves : ∃ left, call.site.finish watch.process = .ok left ∧ left.runs = call.site.runs

theorem exists_finish {started : Site} {process : Process}
    (same : started.workspace = site.workspace)
    (writes : started.host = .rehearsal → ∀ listing path, process.script.listing = some listing →
      listingPath? process.arguments = some path →
        ∃ left, site.workspace.writeBytes (Path.parse path)
          (writtenListing process.arguments listing) = .ok left) :
    ∃ left, started.finish process = .ok left ∧ left.runs = started.runs := by
  unfold Site.finish
  rw [same]
  split
  · rename_i listing path listed named
    simp only
    split
    · exact ⟨_, rfl, rfl⟩
    · exact ⟨_, rfl, rfl⟩
    · rename_i refused rehearsed
      obtain ⟨left, wrote⟩ := writes rehearsed listing path listed named
      rw [wrote] at refused
      cases refused
  · exact ⟨_, rfl, rfl⟩

theorem measured_duration (measured : Measured site arguments limit)
    (runs : site.launch program arguments directory = .ok script) :
    script.duration ≠ some .immeasurable := by
  cases host : site.host with
  | system => exact site.measured_of_launch host runs
  | rehearsal =>
      rw [Site.launch_of_rehearsal host] at runs
      exact measured.duration host script (Behaviour.launch_eq_ok_iff.mp runs)

theorem exists_awaits (measured : Measured site arguments limit)
    (runs : site.launch program arguments directory = .ok script) :
    ∃ watch, (begin site program arguments directory limit).Awaits site.runs script limit watch := by
  obtain ⟨verdict, ticks, foreseen, tells⟩ :=
    exists_tells (measured_duration measured runs) measured.limit
  let process : Process := { index := site.runs.length, arguments, script }
  refine ⟨{ process, verdict, ticks }, ?_⟩
  have writes : site.host = .rehearsal → ∀ listing path, script.listing = some listing →
      listingPath? arguments = some path →
        ∃ left, site.workspace.writeBytes (Path.parse path) (writtenListing arguments listing) =
          .ok left := by
    intro host listing path
    rw [Site.launch_of_rehearsal host] at runs
    exact measured.listing host script listing path (Behaviour.launch_eq_ok_iff.mp runs)
  have watched : startWatch site program arguments directory limit =
      ((site.start program arguments directory).1, .ok { process, verdict, ticks }) := by
    unfold startWatch Site.start
    simp only [runs, Except.map]
    change (_, Except.map _ (foresee script.duration limit)) = _
    rw [foreseen]
    rfl
  unfold begin
  rw [watched]
  exact
    { clock := rfl
      stage := rfl
      scripted := rfl
      newest := rfl
      tells
      run := site.exists_run program arguments directory
      leaves := exists_finish rfl writes }

namespace Awaits

variable {call : Call} {before : List Run} {watch : Watch}
  (awaits : call.Awaits before script limit watch)

include awaits

theorem here : call.At call.site (.waiting watch) :=
  ⟨rfl, awaits.stage⟩

theorem after_uneventful (quiet : script.Uneventful limit moments) :
    (call.after moments).At call.site (.waiting watch) :=
  awaits.here.after_uneventful awaits.tells awaits.clock quiet

theorem after_ended (first : script.ComesFirst limit .ended moments rest) :
    ∃ left : Site, (call.after moments).At left (.ended (endingOf script)) ∧
      left.runs = call.site.runs := by
  obtain ⟨waiting, moment, here, brought, goesOn⟩ :=
    awaits.here.after_first awaits.tells awaits.clock first
  obtain ⟨left, finishes, runs⟩ := awaits.leaves
  have verdict := verdict_of_endsBy awaits.tells brought.2
  have concluded := here.pass_ended awaits.tells brought
  have concludes : watch.conclude call.site = (left, script.outcome) := by
    unfold Watch.conclude
    simp only [verdict, finishes, awaits.scripted]
  refine ⟨left, ?_, runs⟩
  rw [goesOn]
  apply At.after_ended
  rw [concludes] at concluded
  refine ⟨concluded.site, concluded.stage.trans ?_⟩
  unfold endingOf Script.outcome
  cases script.status == 0 <;> rfl

theorem after_killed {event : Event} {ending : Ending} (kills : Kills limit event ending)
    (first : script.ComesFirst limit event moments rest) :
    ∃ killed : Call, killed.At (call.site.kill watch.process) (.reaping ending) ∧
      call.after moments = killed.after rest := by
  obtain ⟨waiting, moment, here, brought, goesOn⟩ :=
    awaits.here.after_first awaits.tells awaits.clock first
  exact ⟨waiting.pass moment, here.pass_killed awaits.tells kills brought, goesOn⟩

theorem runs_after_killed {run : Run} (runs : call.site.runs = before ++ [run])
    (either : script.ComesFirst limit .expired moments rest ∨
      script.ComesFirst limit .cancelled moments rest) :
    (call.after moments).site.runs = before ++ [{ run with killed := true }] := by
  obtain ⟨event, ending, kills, first⟩ : ∃ event ending, Kills limit event ending ∧
      script.ComesFirst limit event moments rest := by
    rcases either with expired | cancelled
    · obtain ⟨value, limited⟩ := expired.exists_limit
      exact ⟨.expired, _, .expired limited, expired⟩
    · exact ⟨.cancelled, _, .cancelled, cancelled⟩
  obtain ⟨killed, here, goesOn⟩ := awaits.after_killed kills first
  rw [goesOn, here.site_of_reaping, Site.runs_kill runs awaits.newest]

theorem runs_after_unkilled
    (neither : ¬ ∃ rest, script.ComesFirst limit .expired moments rest ∨
      script.ComesFirst limit .cancelled moments rest) :
    (call.after moments).site.runs = call.site.runs := by
  rcases script.uneventful_or_comesFirst limit moments with quiet | ⟨event, rest, first⟩
  · rw [(awaits.after_uneventful quiet).site]
  · cases event with
    | ended =>
        obtain ⟨left, concluded, same⟩ := awaits.after_ended first
        rw [concluded.site, same]
    | expired => exact absurd ⟨rest, Or.inl first⟩ neither
    | cancelled => exact absurd ⟨rest, Or.inr first⟩ neither

end Awaits

/-! ### Undisturbed calls -/

theorem At.after_ticks {call : Call} {watch : Watch} {ticks count : Nat}
    (here : call.At site (.waiting watch)) (due : watch.ticks = some ticks)
    (early : call.clock + count ≤ ticks) :
    (call.after (List.replicate count .tick)).At site (.waiting watch) := by
  induction count with
  | zero => exact here
  | succ count ih =>
      have still := ih (by omega)
      have clock : (call.after (List.replicate count .tick)).clock = call.clock + count := by
        rw [clock_after, List.count_replicate_self]
      have waits : isOver watch.ticks (call.clock + count) = false := by
        rw [due]
        exact decide_eq_false (by omega)
      have turned : (call.after (List.replicate count .tick)).turn =
          call.after (List.replicate count .tick) := by
        simp only [turn, still.stage, clock, waits, Bool.false_eq_true, if_false]
      rw [List.replicate_succ', after_append]
      exact At.of_turn (Or.inr rfl) (turned.symm ▸ still)

/-- A call that cannot wait for its process has ended as it does when it is carried out at once. -/
theorem begin_at_once {failure : Failure}
    (fails : (startWatch site program arguments directory limit).2 = .error failure) :
    (begin site program arguments directory limit).At
      (runCompiler site program arguments directory limit).1
      (.ended (.ofOutcome (runCompiler site program arguments directory limit).2)) := by
  unfold begin runCompiler
  cases watched : startWatch site program arguments directory limit with
  | mk started outcome =>
      rw [watched] at fails
      cases fails
      exact ⟨rfl, rfl⟩

/-- If a call just waits until its wait is over, it ends as it does when it is carried out at
once. -/
theorem after_undisturbed {watch : Watch} {ticks : Nat}
    (watched : (startWatch site program arguments directory limit).2 = .ok watch)
    (due : watch.ticks = some ticks) :
    ((begin site program arguments directory limit).after
        (List.replicate ticks .tick ++ [.turn, .reaped])).At
      (runCompiler site program arguments directory limit).1
      (.ended (.ofOutcome (runCompiler site program arguments directory limit).2)) := by
  unfold begin runCompiler
  cases begun : startWatch site program arguments directory limit with
  | mk started outcome =>
      rw [begun] at watched
      cases watched
      simp only
      have here : Call.At { site := started, clock := 0, stage := .waiting watch } started
          (.waiting watch) := ⟨rfl, rfl⟩
      have still := here.after_ticks due (Nat.le_of_eq (Nat.zero_add ticks))
      have clock := clock_after { site := started, clock := 0, stage := .waiting watch }
        (List.replicate ticks .tick)
      rw [List.count_replicate_self, Nat.zero_add] at clock
      have elapsed : isOver watch.ticks ticks = true := by
        rw [due]
        exact decide_eq_true (Nat.le_refl ticks)
      rw [after_append]
      generalize Call.after _ (List.replicate ticks .tick) = call at still clock
      obtain ⟨rfl, stage⟩ := still
      change call.turn.reap.At _ _
      cases verdict : watch.verdict with
      | ends =>
          constructor <;> simp only [turn, stage, clock, elapsed, verdict, if_true, reap]
      | expires failure =>
          constructor <;> simp only [turn, stage, clock, elapsed, verdict, if_true, reap, kill,
            Watch.conclude, Ending.ofOutcome]

/-! ### The ends of calls -/

section

variable (measured : Measured site arguments limit)

include measured

theorem stage_of_endsAs {ending : Ending}
    (ends : EndsAs (site.launch program arguments directory) limit moments ending) :
    ((begin site program arguments directory limit).after moments).stage = .ended ending := by
  cases ends with
  | refused refuses => exact ((begin_of_refuses refuses).after_ended moments).stage
  | returned runs first succeeds =>
      obtain ⟨watch, awaits⟩ := exists_awaits measured runs
      obtain ⟨left, concluded, _runs⟩ := awaits.after_ended first
      simp only [concluded.stage, endingOf, succeeds, BEq.rfl, if_true]
  | exited runs first fails =>
      obtain ⟨watch, awaits⟩ := exists_awaits measured runs
      obtain ⟨left, concluded, _runs⟩ := awaits.after_ended first
      simp only [concluded.stage, endingOf, beq_iff_eq, fails, if_false]
  | timedOut runs limited first reaped =>
      obtain ⟨watch, awaits⟩ := exists_awaits measured runs
      obtain ⟨killed, here, goesOn⟩ := awaits.after_killed (.expired limited) first
      rw [goesOn]
      exact (here.after_reaped reaped).stage
  | @cancelled script rest runs first waited =>
      obtain ⟨watch, awaits⟩ := exists_awaits measured runs
      obtain ⟨killed, here, goesOn⟩ := awaits.after_killed .cancelled first
      rw [goesOn]
      rcases precedes_or .reaped .cancelled rest with ⟨unreaped, uncancelled⟩ | reaped | cut
      · exact absurd waited (not_or.mpr ⟨unreaped, uncancelled⟩)
      · exact (here.after_reaped reaped).stage
      · exact (here.after_cut cut).stage
  | interrupted runs first cut =>
      obtain ⟨watch, awaits⟩ := exists_awaits measured runs
      obtain ⟨value, limited⟩ := first.exists_limit
      obtain ⟨killed, here, goesOn⟩ := awaits.after_killed (.expired limited) first
      rw [goesOn]
      exact (here.after_cut cut).stage

theorem endsAs_of_stage {ending : Ending}
    (ended : ((begin site program arguments directory limit).after moments).stage = .ended ending) :
    EndsAs (site.launch program arguments directory) limit moments ending := by
  cases launched : site.launch program arguments directory with
  | error failure =>
      rw [((begin_of_refuses launched).after_ended moments).stage] at ended
      cases ended
      exact .refused rfl
  | ok script =>
      obtain ⟨watch, awaits⟩ := exists_awaits measured launched
      rcases script.uneventful_or_comesFirst limit moments with quiet | ⟨event, rest, first⟩
      · rw [(awaits.after_uneventful quiet).stage] at ended
        cases ended
      · cases event with
        | ended =>
            obtain ⟨left, concluded, _runs⟩ := awaits.after_ended first
            rw [concluded.stage, endingOf] at ended
            by_cases succeeds : script.status = 0
            · simp only [succeeds, BEq.rfl, if_true] at ended
              cases ended
              exact .returned rfl first succeeds
            · simp only [beq_iff_eq, succeeds, if_false] at ended
              cases ended
              exact .exited rfl first succeeds
        | expired =>
            obtain ⟨value, limited⟩ := first.exists_limit
            obtain ⟨killed, here, goesOn⟩ := awaits.after_killed (.expired limited) first
            rw [goesOn] at ended
            rcases here.ended_of_reaping ended with ⟨rfl, reaped⟩ | ⟨rfl, cut⟩
            · exact .timedOut rfl limited first reaped
            · exact .interrupted rfl first cut
        | cancelled =>
            obtain ⟨killed, here, goesOn⟩ := awaits.after_killed .cancelled first
            rw [goesOn] at ended
            rcases here.ended_of_reaping ended with ⟨rfl, reaped⟩ | ⟨rfl, cut⟩
            · exact .cancelled rfl first (Or.inl reaped.mem)
            · exact .cancelled rfl first (Or.inr cut.mem)

/-- The run of a call is that of a killed process just if its limit passed or the call was cancelled
before anything else came. -/
theorem exists_run_after (program directory : String) (moments : List Moment) :
    ∃ run : Run,
      ((begin site program arguments directory limit).after moments).site.runs =
          site.runs ++ [run] ∧
        (run.killed = true ↔ ∃ script rest,
          site.launch program arguments directory = .ok script ∧
            (script.ComesFirst limit .expired moments rest ∨
              script.ComesFirst limit .cancelled moments rest)) := by
  have unkilled_iff {run : Run} {killing : Prop} (unkilled : run.killed = false)
      (never : ¬ killing) : run.killed = true ↔ killing :=
    iff_of_false (unkilled ▸ Bool.false_ne_true) never
  cases launched : site.launch program arguments directory with
  | error failure =>
      obtain ⟨run, runs, unkilled⟩ := site.exists_run program arguments directory
      refine ⟨run, ?_, unkilled_iff unkilled ?_⟩
      · rw [((begin_of_refuses launched).after_ended moments).site, runs]
      · rintro ⟨script, rest, same, _first⟩
        cases same
  | ok script =>
      obtain ⟨watch, awaits⟩ := exists_awaits measured launched
      obtain ⟨run, runs, unkilled⟩ := awaits.run
      by_cases either : ∃ rest, script.ComesFirst limit .expired moments rest ∨
        script.ComesFirst limit .cancelled moments rest
      · obtain ⟨rest, either⟩ := either
        exact ⟨{ run with killed := true }, awaits.runs_after_killed runs either,
          iff_of_true rfl ⟨script, rest, rfl, either⟩⟩
      · refine ⟨run, (awaits.runs_after_unkilled either).trans runs, unkilled_iff unkilled ?_⟩
        rintro ⟨other, rest, same, first⟩
        cases same
        exact either ⟨rest, first⟩

end

theorem elapsed_of_first_ended {script : Script}
    (first : script.ComesFirst limit .ended moments rest) :
    ∃ ticks, script.duration = some (.ticks ticks) ∧ ticks ≤ moments.count .tick := by
  obtain ⟨before, moment, rfl, _quiet, _gives, ticks, takes, _allowed, elapsed⟩ := first
  exact ⟨ticks, takes, elapsed.trans ((List.prefix_append before _).sublist.count_le _)⟩

theorem not_runsAt_of_endsAs {launched : Except Failure Script} {run : Run} {ending : Ending}
    (killed : run.killed = true ↔ ∃ script rest, launched = .ok script ∧
      (script.ComesFirst limit .expired moments rest ∨
        script.ComesFirst limit .cancelled moments rest))
    (runs : launched = .ok script)
    (ends : EndsAs launched limit moments ending) :
    ¬ run.RunsAt script (moments.count .tick) := by
  rintro ⟨unkilled, early⟩
  have untouched {other : Script} {rest : List Moment} (runs : launched = .ok other)
      (first : other.ComesFirst limit .expired moments rest ∨
        other.ComesFirst limit .cancelled moments rest) : False := by
    rw [killed.mpr ⟨other, rest, runs, first⟩] at unkilled
    cases unkilled
  have unfinished {other : Script} {rest : List Moment} (same : launched = .ok other)
      (first : other.ComesFirst limit .ended moments rest) : False := by
    obtain ⟨ticks, takes, elapsed⟩ := elapsed_of_first_ended first
    cases runs.symm.trans same
    exact absurd (early ticks takes) (Nat.not_lt_of_le elapsed)
  cases ends with
  | refused refuses => cases runs.symm.trans refuses
  | returned same first succeeds => exact unfinished same first
  | exited same first fails => exact unfinished same first
  | timedOut same limited first reaped => exact untouched same (Or.inl first)
  | cancelled same first waited => exact untouched same (Or.inr first)
  | interrupted same first cut => exact untouched same (Or.inl first)

/-- A call has ended just as what came to it first makes it end. Its process is killed just if that
was its limit or a cancellation, and once the call has ended, its process runs no more. -/
theorem ends_by_what_comes_first (measured : Measured site arguments limit)
    (program directory : String) (moments : List Moment) :
    let launched := site.launch program arguments directory
    let call := (begin site program arguments directory limit).after moments
    (∀ ending, call.stage = .ended ending ↔ EndsAs launched limit moments ending) ∧
      ∃ run, call.site.runs = site.runs ++ [run] ∧
        (run.killed = true ↔ ∃ script rest, launched = .ok script ∧
          (script.ComesFirst limit .expired moments rest ∨
            script.ComesFirst limit .cancelled moments rest)) ∧
        ∀ script ending, launched = .ok script → call.stage = .ended ending →
          ¬ run.RunsAt script call.clock := by
  intro launched call
  obtain ⟨run, newest, killed⟩ := exists_run_after measured program directory moments
  refine ⟨fun ending => ⟨endsAs_of_stage measured, stage_of_endsAs measured⟩, run, newest, killed,
    ?_⟩
  intro script ending runs ended
  have clock : call.clock = moments.count .tick := by
    rw [clock_after, clock_begin, Nat.zero_add]
  rw [clock]
  exact not_runsAt_of_endsAs killed runs (endsAs_of_stage measured ended)

/-- A process of two ticks with a limit of one and a half: both have passed when the call learns of
it, but the limit came first. -/
theorem timed_out_before_end :
    let value : Binary64 := .finite false 3 (-1)
    let limit : Option Limit := some (.seconds value)
    let script : Script :=
      { duration := some (.ticks 2), listing := none, output := some [], status := 0 }
    let site : Site :=
      { workspace := Workspace.empty (Path.parse "/W"), runs := [], behaviours := [.runs script] }
    let moments : List Moment := [.tick, .tick, .turn, .tick, .reaped]
    let call := (begin site "cl" ["/O2"] "/W" limit).after moments
    Measured site ["/O2"] limit ∧
      EndsAs (.ok script) limit moments (.failed (.compilerTimedOut value)) ∧
      ∃ run, call.site.runs = [run] ∧ ¬ run.RunsAt script call.clock := by
  intro value limit script site moments call
  have measured : Measured site ["/O2"] limit :=
    { limit := Or.inr ⟨value, rfl⟩
      duration := nofun
      listing := nofun }
  obtain ⟨ends, run, newest, _killed, stops⟩ :=
    ends_by_what_comes_first measured "cl" "/W" moments
  have ended : call.stage = .ended (.failed (.compilerTimedOut value)) := by decide +kernel
  exact ⟨measured, (ends _).mp ended, run, newest, stops script _ rfl ended⟩

/-- A limit that no clock measures makes the call fail at once, while its process goes on. -/
theorem process_outruns_failed_call :
    let limit : Option Limit := some (.ofInt (10 ^ 400))
    let script : Script :=
      { duration := some (.ticks 1)
        listing := none
        output := some (Text.encodeUtf8 "done")
        status := 0 }
    let site : Site :=
      { workspace := Workspace.empty (Path.parse "/W"), runs := [], behaviours := [.runs script] }
    let call := begin site "cl" ["/O2"] "/W" limit
    call.stage = .ended (.failed .immeasurableTime) ∧
      (∃ run, call.site.runs = [run] ∧ run.RunsAt script call.clock) ∧
      (call.after [.tick, .turn]).stage = .ended (.failed .immeasurableTime) := by
  intro limit script site call
  have ended : call.stage = .ended (.failed .immeasurableTime) := by decide +kernel
  have unkilled : call.site.runs.map Run.killed = [false] := by decide +kernel
  obtain ⟨run, newest, killed⟩ := List.map_eq_singleton_iff.mp unkilled
  have clock : call.clock = 0 := clock_begin
  refine ⟨ended, ⟨run, newest, killed, ?_⟩, by decide +kernel⟩
  intro ticks takes
  rw [clock]
  cases takes
  exact Nat.one_pos

end Call

end ListingAtlas.Compile
