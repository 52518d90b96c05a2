import ListingAtlas.Compile.Correlator
import ListingAtlas.Compile.Stages
import ListingAtlas.Session.Correlator

/-!
The correlator that compiles: it generates a listing of the text in the editor and correlates it.

Without a limit the task of the session itself waits for the compiler. Under a limit a helper does,
which needs a turn to begin; the task then learns of what becomes of the compiler through the
helper, and that takes turns as well. All the while the temporary copy stays, and it still does when
the compiler has been killed and the task waits for it to be gone.
-/

namespace ListingAtlas.Session

open Compile (Generation Process Site Request)

variable {Note : Type}

/-! ### What takes time around a compiler -/

/-- How long something is waited for, if it is. -/
inductive Delay where
  | skipped
  /-- Without ticks it never comes. -/
  | lasting (ticks : Option Nat)
deriving DecidableEq, Repr

def Delay.ticks : Delay → Option Nat
  | .skipped => some 0
  | .lasting ticks => ticks

/-- How long processes take to start and, once they are killed, to be gone. -/
structure Pace where
  start : Process → Delay
  gone : Process → Delay

/-- Processes start at once, and are gone as soon as they are killed. -/
def Pace.immediate : Pace where
  start := fun _ => .skipped
  gone := fun _ => .skipped

/-- How long the wait of a generation is; one that is over waits for nothing. -/
def Pace.delay (pace : Pace) : Compile.Stage → Delay
  | .starting process => pace.start process
  | .running watch => .lasting watch.ticks
  | .reaping process _ => pace.gone process
  | .ended _ => .lasting none

/-! ### Waiting -/

/-- What a task learns from its helper: that the compiler has ended, or that the helper has, since
the limit is reached or nobody waits any more. -/
inductive Notice where
  | ended (outcome : Except Failure String)
  | late
  | unwanted

/-- How far the wait of a generation has come. -/
inductive Waiting where
  /-- The helper has yet to begin. -/
  | opening
  | attending
  /-- Notice is on its way for some more turns. -/
  | hearing (turns : Fin 3) (notice : Notice)

/-- A generation for a request, with its files as they were when it began to wait. -/
structure Compiling where
  request : Request
  generation : Generation
  waiting : Waiting

def endingOf : Except Failure Correlation → Ending
  | .ok correlation => .result correlation
  | .error failure => .failure failure

/-- How a call ends whose generation has ended. -/
def endingOfGeneration (environment : Environment) (request : Request) : Compile.Ending → Ending
  | .returned generated => endingOf (Compile.correlateGenerated environment request generated)
  | .failed failure => .failure failure
  | .cancelled => .cancelled

namespace Compiling

def wait (request : Request) (generation : Generation) (ticks : Option Nat) (waiting : Waiting) :
    Progress Site Note Compiling :=
  { world := generation.site
    notes := []
    logs := []
    move := .wait ticks { request, generation, waiting } }

/-- What is not waited for has happened. -/
def hasten (pace : Pace) (generation : Generation) : Generation :=
  if pace.delay generation.stage = .skipped then generation.elapse else generation

/-- A generation that goes on comes to its next wait. A limit that is reached at once does not even
let the helper begin. -/
def proceed (environment : Environment) (pace : Pace) (request : Request)
    (generation : Generation) : Progress Site Note Compiling :=
  let generation := hasten pace generation
  let ticks := (pace.delay generation.stage).ticks
  match generation.stage with
  | .starting _ | .reaping _ _ => wait request generation ticks .attending
  | .running watch =>
      if request.limit.isNone then wait request generation ticks .attending
      else
        match watch.verdict, ticks with
        | .ends, _ => wait request generation (some 0) .opening
        | .expires _, some 0 => wait request generation (some 0) (.hearing 2 .late)
        | .expires _, ticks => wait request generation ticks .attending
  | .ended ending =>
      { world := generation.site
        notes := []
        logs := []
        move := .finish (endingOfGeneration environment request ending) }

/-- The wait is over. Under a limit the helper knows of the compiler first. -/
def attended (environment : Environment) (pace : Pace) (request : Request)
    (generation : Generation) : Progress Site Note Compiling :=
  match generation.stage, request.limit with
  | .running watch, some _ =>
      match watch.verdict with
      | .expires _ => wait request generation (some 0) (.hearing 2 .late)
      | .ends =>
          let (generation, outcome) := generation.finish watch.process
          wait request generation (some 0) (.hearing 1 (.ended outcome))
  | _, _ => proceed environment pace request generation.elapse

/-- The task is cancelled while it waits. -/
def giveUp (environment : Environment) (pace : Pace) (request : Request)
    (generation : Generation) : Progress Site Note Compiling :=
  match generation.stage, request.limit with
  | .running _, some _ => wait request generation (some 0) (.hearing 2 .unwanted)
  | _, _ => proceed environment pace request generation.cancel

/-- What the generation does on notice. -/
def heard (generation : Generation) : Notice → Generation
  | .ended outcome => generation.hear outcome
  | .late => generation.elapse
  | .unwanted => generation.cancel

/-- Notice of the end of a compiler makes up for a cancellation that comes too late. -/
def heardTooLate (generation : Generation) : Notice → Generation
  | .ended outcome => generation.hear outcome
  | .late | .unwanted => generation.cancel

end Compiling

open Compiling

def startCompiling (environment : Environment) (pace : Pace) (site : Site) (request : Request)
    (_token : Token) : Progress Site Note Compiling :=
  match Compile.checkFamily request.command with
  | .error failure =>
      { world := site, notes := [], logs := [], move := .finish (.failure failure) }
  | .ok _ =>
      { proceed environment pace request (Generation.begin site request) with
        logs := (Compile.begin site request).logs }

def resumeCompiling (environment : Environment) (pace : Pace) (site : Site)
    (compiling : Compiling) (wake : Wake) : Progress Site Note Compiling :=
  let request := compiling.request
  let generation := { compiling.generation with site }
  match compiling.waiting, wake with
  | .opening, .elapsed => wait request generation (pace.delay generation.stage).ticks .attending
  | .attending, .elapsed => attended environment pace request generation
  | .opening, .cancelled | .attending, .cancelled => giveUp environment pace request generation
  | .hearing ⟨turns + 1, within⟩ notice, .elapsed =>
      wait request generation (some 0) (.hearing ⟨turns, Nat.lt_of_succ_lt within⟩ notice)
  | .hearing ⟨0, _⟩ notice, .elapsed =>
      proceed environment pace request (heard generation notice)
  | .hearing _ notice, .cancelled =>
      proceed environment pace request (heardTooLate generation notice)

/-! ### How often it gives way -/

/-- How many waits a generation has left at most. -/
def waitsLeft : Compile.Stage → Nat
  | .starting _ => 3
  | .running _ => 2
  | .reaping _ _ => 1
  | .ended _ => 0

theorem waitsLeft_le (stage : Compile.Stage) : waitsLeft stage ≤ 3 := by
  cases stage with
  | starting process => exact Nat.le_refl 3
  | running watch => exact Nat.le_succ 2
  | reaping process failure => exact Nat.le_add_right 1 2
  | ended ending => exact Nat.zero_le 3

def Waiting.pauses : Waiting → Nat
  | .opening => 5
  | .attending => 4
  | .hearing turns _ => turns + 1

theorem Waiting.pauses_lt (waiting : Waiting) : waiting.pauses < 6 := by
  cases waiting with
  | opening => decide
  | attending => decide
  | hearing turns notice => exact Nat.lt_of_le_of_lt (Nat.succ_le_of_lt turns.isLt) (by decide)

def Compiling.pauses (compiling : Compiling) : Nat :=
  6 * waitsLeft compiling.generation.stage + compiling.waiting.pauses

theorem Compiling.pauses_le (compiling : Compiling) : compiling.pauses ≤ 23 := by
  have waits := waitsLeft_le compiling.generation.stage
  have turns := compiling.waiting.pauses_lt
  unfold pauses
  omega

section

variable (generation : Generation)

theorem waitsLeft_hear (outcome : Except Failure String) :
    waitsLeft (generation.hear outcome).stage = 0 := by
  obtain ⟨ending, ended⟩ := generation.hear_stage outcome
  rw [ended]
  rfl

theorem waitsLeft_elapse :
    waitsLeft generation.elapse.stage ≤ waitsLeft generation.stage - 1 := by
  unfold Generation.elapse
  cases stage : generation.stage with
  | starting process =>
      simp only
      cases process.watch generation.limit with
      | error failure => exact Nat.zero_le _
      | ok watch => exact Nat.le_refl _
  | running watch =>
      simp only
      cases watch.verdict with
      | expires failure => exact Nat.le_refl _
      | ends => exact Nat.le_trans (Nat.le_of_eq (waitsLeft_hear _ _)) (Nat.zero_le _)
  | reaping process failure => cases failure <;> exact Nat.le_refl _
  | ended ending =>
      simp only [stage]
      exact Nat.le_refl _

/-- After a cancellation only a killed process is waited for. -/
theorem waitsLeft_cancel :
    waitsLeft generation.cancel.stage ≤ min 1 (waitsLeft generation.stage - 1) := by
  unfold Generation.cancel
  cases stage : generation.stage with
  | starting process => exact Nat.le_refl 1
  | running watch => exact Nat.le_refl 1
  | reaping process failure => exact Nat.le_refl 0
  | ended ending =>
      simp only [stage]
      exact Nat.le_refl 0

theorem waitsLeft_heard (notice : Notice) :
    waitsLeft (heard generation notice).stage ≤ waitsLeft generation.stage - 1 := by
  cases notice with
  | ended outcome => exact Nat.le_trans (Nat.le_of_eq (waitsLeft_hear _ _)) (Nat.zero_le _)
  | late => exact waitsLeft_elapse generation
  | unwanted => exact Nat.le_trans (waitsLeft_cancel generation) (Nat.min_le_right _ _)

theorem waitsLeft_heardTooLate (notice : Notice) :
    waitsLeft (heardTooLate generation notice).stage ≤
      min 1 (waitsLeft generation.stage - 1) := by
  cases notice with
  | ended outcome => exact Nat.le_trans (Nat.le_of_eq (waitsLeft_hear _ _)) (Nat.zero_le _)
  | late | unwanted => exact waitsLeft_cancel generation

theorem waitsLeft_hasten (pace : Pace) :
    waitsLeft (hasten pace generation).stage ≤ waitsLeft generation.stage := by
  unfold hasten
  split
  · exact Nat.le_trans (waitsLeft_elapse generation) (Nat.sub_le _ _)
  · exact Nat.le_refl _

end

section

variable {environment : Environment} {pace : Pace} {request : Request} {generation : Generation}
  {ticks : Option Nat} {next : Compiling}

theorem proceed_wait
    (waits : (proceed environment pace request generation :
      Progress Site Note Compiling).move = .wait ticks next) :
    next.generation = hasten pace generation ∧ 0 < waitsLeft next.generation.stage := by
  unfold proceed at waits
  cases stage : (hasten pace generation).stage with
  | starting process =>
      simp only [stage] at waits
      cases waits
      exact ⟨rfl, stage ▸ Nat.succ_pos 2⟩
  | running watch =>
      have some : 0 < waitsLeft (hasten pace generation).stage := stage ▸ Nat.succ_pos 1
      simp only [stage] at waits
      split at waits
      · cases waits
        exact ⟨rfl, some⟩
      · split at waits <;> cases waits <;> exact ⟨rfl, some⟩
  | reaping process failure =>
      simp only [stage] at waits
      cases waits
      exact ⟨rfl, stage ▸ Nat.succ_pos 0⟩
  | ended ending =>
      simp only [stage] at waits
      cases waits

/-- Where a generation has gone on, fewer waits are left. -/
theorem proceed_pauses {bound : Nat} (left : waitsLeft generation.stage ≤ bound - 1)
    (waits : (proceed environment pace request generation :
      Progress Site Note Compiling).move = .wait ticks next) : next.pauses < 6 * bound := by
  obtain ⟨same, some⟩ := proceed_wait waits
  have fewer := waitsLeft_hasten generation pace
  have turns := next.waiting.pauses_lt
  rw [← same] at fewer
  unfold Compiling.pauses
  omega

end

theorem Compiling.pauses_lt (environment : Environment) (pace : Pace) (site : Site)
    (compiling : Compiling) (wake : Wake) (next : Compiling)
    (waits : (resumeCompiling environment pace site compiling wake :
      Progress Site Note Compiling).move = .wait (some 0) next) :
    next.pauses < compiling.pauses := by
  obtain ⟨request, generation, waiting⟩ := compiling
  have further (left : next.pauses < 6 * waitsLeft generation.stage) :
      next.pauses < pauses ⟨request, generation, waiting⟩ := by
    exact Nat.lt_of_lt_of_le left (Nat.le_add_right _ _)
  have gaveUp (waits : (giveUp environment pace request { generation with site } :
      Progress Site Note Compiling).move = .wait (some 0) next) (turns : 3 < waiting.pauses) :
      next.pauses < pauses ⟨request, generation, waiting⟩ := by
    unfold giveUp at waits
    split at waits
    · cases waits
      exact Nat.add_lt_add_left turns _
    · have fewer := waitsLeft_cancel { generation with site }
      exact further (proceed_pauses (Nat.le_trans fewer (Nat.min_le_right _ _)) waits)
  cases waiting with
  | opening =>
      cases wake with
      | elapsed =>
          cases (Move.wait.inj waits).2
          exact Nat.lt_succ_self _
      | cancelled => exact gaveUp waits (by decide)
  | attending =>
      cases wake with
      | cancelled => exact gaveUp waits (by decide)
      | elapsed =>
          simp only [resumeCompiling, attended] at waits
          split at waits
          · split at waits
            · cases waits
              exact Nat.lt_succ_self _
            · rename_i watch _limit stage _ends
              cases waits
              unfold pauses
              rw [Generation.finish_stage]
              exact Nat.add_lt_add_left (Nat.lt_add_of_pos_right (Nat.succ_pos 1)) _
          · exact further (proceed_pauses (waitsLeft_elapse { generation with site }) waits)
  | hearing turns notice =>
      obtain ⟨turns, within⟩ := turns
      have tooLate := Nat.le_trans (waitsLeft_heardTooLate { generation with site } notice)
        (Nat.min_le_right _ _)
      cases turns with
      | zero =>
          cases wake with
          | cancelled => exact further (proceed_pauses tooLate waits)
          | elapsed =>
              exact further (proceed_pauses (waitsLeft_heard { generation with site } notice) waits)
      | succ turns =>
          cases wake with
          | cancelled => exact further (proceed_pauses tooLate waits)
          | elapsed =>
              cases (Move.wait.inj waits).2
              exact Nat.lt_succ_self _

def compiling (Note : Type) (environment : Environment) (pace : Pace) :
    Correlator Site Note Request Compiling :=
  { start := startCompiling environment pace
    resume := resumeCompiling environment pace
    pauses := Compiling.pauses
    patience := 23
    pauses_le := Compiling.pauses_le
    pauses_lt := Compiling.pauses_lt environment pace }

end ListingAtlas.Session
