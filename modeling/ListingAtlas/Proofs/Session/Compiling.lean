import ListingAtlas.Proofs.Compile.Footprint
import ListingAtlas.Proofs.Session.InFlight
import ListingAtlas.Session.Compiling

/-!
The correlator that compiles. A call that is cancelled takes turns to give up, and then waits for its
compiler to be gone, so that calls keep apart wherever that takes less time than a debounce. What a
call does to the files is what its generation does.
-/

namespace ListingAtlas.Session

open Compile (Site Request Generation Process)
open Compiling (wait hasten proceed giveUp attended heard heardTooLate)

variable {Note : Type}

/-! ### Calls that end in time -/

section

variable {environment : Environment} {pace : Pace} {request : Request}
  {generation : Generation} {next : Compiling} {bound : Nat} {ticks : Option Nat}

/-- Whether all processes that are killed are gone within less than some ticks. -/
def Pace.Reaps (pace : Pace) (bound : Nat) : Prop :=
  ∀ process, ∃ ticks, (pace.gone process).ticks = some ticks ∧ ticks < bound

theorem Pace.Reaps.pos (reaps : pace.Reaps bound) : 0 < bound := by
  let process : Process :=
    { index := 0
      arguments := []
      script := { duration := none, listing := none, output := none, status := 0 } }
  obtain ⟨ticks, _gone, soon⟩ := reaps process
  omega

/-- Whether nothing is left to wait for but that a killed process is gone. -/
def Resigned (generation : Generation) : Prop :=
  waitsLeft generation.stage ≤ 1

theorem resigned_cancel (generation : Generation) : Resigned generation.cancel :=
  Nat.le_trans (waitsLeft_cancel generation) (Nat.min_le_left _ _)

theorem resigned_heardTooLate (generation : Generation) (notice : Notice) :
    Resigned (heardTooLate generation notice) :=
  Nat.le_trans (waitsLeft_heardTooLate generation notice) (Nat.min_le_left _ _)

/-- Who has resigned waits only for the killed process. -/
theorem Resigned.wait (resigned : Resigned generation) (reaps : pace.Reaps bound)
    (move : (proceed environment pace request generation :
      Progress Site Note Compiling).move = .wait ticks next) :
    (∃ count, ticks = some count ∧ count < bound) ∧ next.waiting = .attending ∧
      Resigned next.generation := by
  have left : Resigned (hasten pace generation) :=
    Nat.le_trans (waitsLeft_hasten generation pace) resigned
  have same := (proceed_wait move).1
  unfold Resigned at left
  unfold proceed at move
  cases stage : (hasten pace generation).stage with
  | starting process =>
      rw [stage] at left
      exact absurd left (by simp [waitsLeft])
  | running watch =>
      rw [stage] at left
      exact absurd left (by simp [waitsLeft])
  | reaping process failure =>
      simp only [stage] at move
      cases move
      exact ⟨reaps process, rfl, left⟩
  | ended ending =>
      simp only [stage] at move
      cases move

/-- And then it is over. -/
theorem not_overstays_resigned (resigned : Resigned generation) :
    ¬ Overstays (compiling Note environment pace).toBehaviour bound
      { request, generation, waiting := .attending } := by
  have finishes (site : Site) (ticks : Option Nat) (next : Compiling) :
      (resumeCompiling environment pace site { request, generation, waiting := .attending }
        .elapsed : Progress Site Note Compiling).move ≠ .wait ticks next := by
    intro move
    have stops : ∀ watch, generation.stage ≠ .running watch := by
      intro watch stage
      unfold Resigned at resigned
      rw [stage] at resigned
      exact absurd resigned (by simp [waitsLeft])
    simp only [resumeCompiling, attended] at move
    split at move
    · rename_i watch _limit stage _limited
      exact stops watch stage
    · have elapsed := waitsLeft_elapse { generation with site }
      have waits := proceed_wait move
      have fewer := waitsLeft_hasten ({ generation with site }).elapse pace
      rw [← waits.1] at fewer
      have now : waitsLeft ({ generation with site }).stage ≤ 1 := resigned
      omega
  intro overstays
  cases overstays with
  | sleeps site move => exact finishes site _ _ move
  | waits site move _late => exact finishes site _ _ move
  | lingers site move _rest => exact finishes site _ _ move

/-- What a cancelled call gives way to are turns, and then one wait that is short enough. -/
theorem not_overstays_unwanted (reaps : pace.Reaps bound) (turns : Nat) (within : turns < 3) :
    ¬ Overstays (compiling Note environment pace).toBehaviour bound
      { request, generation, waiting := .hearing ⟨turns, within⟩ .unwanted } := by
  have time := reaps.pos
  induction turns generalizing generation with
  | zero =>
      have last (site : Site) {ticks : Option Nat} {next : Compiling}
          (move : (resumeCompiling environment pace site
            { request, generation, waiting := .hearing ⟨0, within⟩ .unwanted } .elapsed :
              Progress Site Note Compiling).move = .wait ticks next) :=
        (resigned_cancel { generation with site }).wait reaps move
      intro overstays
      cases overstays with
      | sleeps site move =>
          obtain ⟨count, some, _soon⟩ := (last site move).1
          cases some
      | waits site move late =>
          obtain ⟨count, some, soon⟩ := (last site move).1
          cases some
          omega
      | @lingers site _left ticks _inner next move rest =>
          obtain ⟨_soon, attending, resigned⟩ := last site move
          obtain ⟨asked, left, waiting⟩ := next
          cases attending
          exact not_overstays_resigned resigned rest
  | succ turns ih =>
      intro overstays
      cases overstays with
      | sleeps site move => cases move
      | waits site move late =>
          cases move
          omega
      | lingers site move rest =>
          cases move
          exact ih (Nat.lt_of_succ_lt within) rest

/-- A call that is cancelled resigns, under a limit a few turns later. -/
theorem wait_of_cancelled {site : Site} {inner : Compiling}
    (move : (resumeCompiling environment pace site inner .cancelled :
      Progress Site Note Compiling).move = .wait ticks next) (reaps : pace.Reaps bound) :
    (ticks = some 0 ∧ ∃ generation, next =
        { request := inner.request, generation, waiting := .hearing 2 .unwanted }) ∨
      (∃ count, ticks = some count ∧ count < bound) ∧ next.waiting = .attending ∧
        Resigned next.generation := by
  obtain ⟨request, generation, waiting⟩ := inner
  have quits (move : (giveUp environment pace request { generation with site } :
      Progress Site Note Compiling).move = .wait ticks next) :
      (ticks = some 0 ∧ ∃ generation, next =
          { request, generation, waiting := .hearing 2 .unwanted }) ∨
        (∃ count, ticks = some count ∧ count < bound) ∧ next.waiting = .attending ∧
          Resigned next.generation := by
    unfold giveUp at move
    split at move
    · cases move
      exact Or.inl ⟨rfl, _, rfl⟩
    · exact Or.inr ((resigned_cancel { generation with site }).wait reaps move)
  cases waiting with
  | opening => exact quits move
  | attending => exact quits move
  | hearing turns notice =>
      obtain ⟨turns, within⟩ := turns
      have resigned := resigned_heardTooLate { generation with site } notice
      cases turns with
      | zero => exact Or.inr (resigned.wait reaps move)
      | succ turns => exact Or.inr (resigned.wait reaps move)

/-- Where killed compilers are gone before a debounce is over, a call that is cancelled ends in
time. -/
theorem endsInTime_compiling (Note : Type) (environment : Environment)
    (reaps : pace.Reaps bound) :
    EndsInTime (compiling Note environment pace).toBehaviour bound := by
  intro ticks inner _attained overruns
  cases overruns with
  | sleeps site move =>
      rcases wait_of_cancelled move reaps with ⟨turn, _notice⟩ | ⟨⟨count, soon, _bound⟩, _resigned⟩
      · cases turn
      · cases soon
  | waits site move late =>
      rcases wait_of_cancelled move reaps with ⟨turn, _notice⟩ | ⟨⟨count, soon, short⟩, _resigned⟩
      · cases turn
        exact absurd late (Nat.not_lt_zero _)
      · cases soon
        omega
  | @lingers site ticks next move rest =>
      rcases wait_of_cancelled move reaps with
        ⟨turn, generation, rfl⟩ | ⟨_soon, attending, resigned⟩
      · cases turn
        exact not_overstays_unwanted reaps 2 _ rest
      · obtain ⟨asked, left, waiting⟩ := next
        cases attending
        exact not_overstays_resigned resigned rest

theorem oneInFlight_compiling (Note : Type) (environment : Environment) {settings : Settings}
    (reaps : ∀ ticks, settings.debounce = some (.ticks ticks) → pace.Reaps ticks) :
    OneInFlight (compiling Note environment pace).toBehaviour settings := by
  by_cases ends : ∃ ticks, settings.debounce = some (.ticks ticks)
  · obtain ⟨ticks, debounced⟩ := ends
    exact oneInFlight_of_endsInTime debounced
      (endsInTime_compiling Note environment (reaps ticks debounced))
  · exact oneInFlight_of_endless fun ticks debounced => ends ⟨ticks, debounced⟩

end

/-! ### What calls do to the files -/

/-- A stretch of a call takes its generation on, and it waits no more once that is over. -/
structure Serves (generation next : Generation) (progress : Progress Site Note Compiling) :
    Prop where
  goesOn : generation.GoesOn next
  world : progress.world = next.site
  waits : ∀ ticks inner, progress.move = .wait ticks inner →
    inner.generation = next ∧ ∀ ending, next.stage ≠ .ended ending

section

variable {environment : Environment} {pace : Pace} {request : Request}
  {generation reached : Generation}

theorem goesOn_hasten (pace : Pace) (generation : Generation) :
    generation.GoesOn (hasten pace generation) := by
  unfold hasten
  split
  · exact generation.goesOn_elapse
  · exact .refl generation

theorem goesOn_heard (generation : Generation) (notice : Notice) :
    generation.GoesOn (heard generation notice) := by
  cases notice with
  | ended outcome => exact generation.goesOn_hear outcome
  | late => exact generation.goesOn_elapse
  | unwanted => exact generation.goesOn_cancel

theorem goesOn_heardTooLate (generation : Generation) (notice : Notice) :
    generation.GoesOn (heardTooLate generation notice) := by
  cases notice with
  | ended outcome => exact generation.goesOn_hear outcome
  | late | unwanted => exact generation.goesOn_cancel

theorem serves_wait (goesOn : generation.GoesOn reached)
    (waits : ∀ ending, reached.stage ≠ .ended ending) (ticks : Option Nat) (waiting : Waiting) :
    Serves generation reached
      (wait request reached ticks waiting : Progress Site Note Compiling) where
  goesOn := goesOn
  world := rfl
  waits := by
    intro _ticks inner move
    cases move
    exact ⟨rfl, waits⟩

theorem serves_proceed (goesOn : generation.GoesOn reached) :
    Serves generation (hasten pace reached)
      (proceed environment pace request reached : Progress Site Note Compiling) where
  goesOn := goesOn.trans (goesOn_hasten pace reached)
  world := by
    unfold proceed
    simp only
    split
    · rfl
    · rfl
    · split
      · rfl
      · split <;> rfl
    · rfl
  waits := by
    intro ticks inner move
    obtain ⟨same, left⟩ := proceed_wait move
    refine ⟨same, fun ending ended => ?_⟩
    rw [same, ended] at left
    exact absurd left (Nat.lt_irrefl 0)

theorem exists_serves (environment : Environment) (pace : Pace) (site : Site)
    (compiling : Compiling) (wake : Wake)
    (waits : ∀ ending, compiling.generation.stage ≠ .ended ending) :
    ∃ next, Serves { compiling.generation with site } next
      (resumeCompiling environment pace site compiling wake : Progress Site Note Compiling) := by
  obtain ⟨request, generation, waiting⟩ := compiling
  have goesOn := Generation.GoesOn.refl { generation with site }
  have givesUp : ∃ next, Serves { generation with site } next
      (giveUp environment pace request { generation with site } :
        Progress Site Note Compiling) := by
    unfold giveUp
    split
    · exact ⟨_, serves_wait goesOn waits _ _⟩
    · exact ⟨_, serves_proceed (Generation.goesOn_cancel _)⟩
  cases waiting with
  | opening =>
      cases wake with
      | elapsed => exact ⟨_, serves_wait goesOn waits _ _⟩
      | cancelled => exact givesUp
  | attending =>
      cases wake with
      | cancelled => exact givesUp
      | elapsed =>
          simp only [resumeCompiling, attended]
          split
          · rename_i watch _limit stage _limited
            have works : ({ generation with site } : Generation).stage.process? =
                some watch.process := by
              rw [stage]
              rfl
            split
            · exact ⟨_, serves_wait goesOn waits _ _⟩
            · refine ⟨_, serves_wait (Generation.goesOn_finish works) ?_ _ _⟩
              intro ending
              rw [Generation.finish_stage]
              exact waits ending
          · exact ⟨_, serves_proceed (Generation.goesOn_elapse _)⟩
  | hearing turns notice =>
      obtain ⟨turns, within⟩ := turns
      have tooLate : ∃ next, Serves { generation with site } next
          (proceed environment pace request (heardTooLate { generation with site } notice) :
            Progress Site Note Compiling) :=
        ⟨_, serves_proceed (goesOn_heardTooLate _ notice)⟩
      cases turns with
      | zero =>
          cases wake with
          | elapsed => exact ⟨_, serves_proceed (goesOn_heard _ notice)⟩
          | cancelled => exact tooLate
      | succ turns =>
          cases wake with
          | elapsed => exact ⟨_, serves_wait goesOn waits _ _⟩
          | cancelled => exact tooLate

theorem startCompiling_serves (Note : Type) (environment : Environment) (pace : Pace)
    (site : Site) (request : Request) (token : Token) :
    (startCompiling environment pace site request token :
        Progress Site Note Compiling).world = site ∧
      (∀ ticks inner, (startCompiling environment pace site request token :
        Progress Site Note Compiling).move ≠ .wait ticks inner) ∨
    ∃ next, Serves (Generation.begin site request) next
      (startCompiling environment pace site request token : Progress Site Note Compiling) := by
  unfold startCompiling
  cases Compile.checkFamily request.command with
  | error failure =>
      exact Or.inl ⟨rfl, fun ticks inner move => by cases move⟩
  | ok _ =>
      have serves : Serves _ _ (proceed environment pace request (Generation.begin site request) :
          Progress Site Note Compiling) := serves_proceed (.refl _)
      exact Or.inr ⟨_, serves.goesOn, serves.world, serves.waits⟩

end

end ListingAtlas.Session
