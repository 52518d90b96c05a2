import ListingAtlas.Session.Correlator
import ListingAtlas.Span

/-!
Correlators that follow a plan: work for a time, then end in a given way. A plan may hold on when it
is cancelled, and end as it would have done some time later.
-/

namespace ListingAtlas.Session

structure Plan where
  name : String
  delay : Span
  ending : Ending
  /-- How long the work goes on after it is cancelled; without that it stops. -/
  afterCancel : Option Span
deriving DecidableEq, Repr

inductive PlanNote where
  | started (name : String) (generation : Int)
  | interrupted (name : String)
deriving DecidableEq, Repr

inductive PlanState where
  | working (plan : Plan)
  | unwinding (plan : Plan)
deriving DecidableEq, Repr

def PlanState.pauses : PlanState → Nat
  | .working _ => 1
  | .unwinding _ => 0

/-- Work for a time; work that cannot be timed fails. -/
def workFor (span : Span) (state : PlanState) : Move PlanState :=
  match span with
  | .ticks count => .wait (some count) state
  | .immeasurable => .finish (.failure .immeasurableTime)

variable {World : Type}

def startPlan (world : World) (plan : Plan) (token : Token) :
    Progress World PlanNote PlanState :=
  { world
    notes := [.started plan.name token.generation]
    logs := []
    move := workFor plan.delay (.working plan) }

def resumePlan (world : World) : PlanState → Wake → Progress World PlanNote PlanState
  | .working plan, .elapsed => { world, notes := [], logs := [], move := .finish plan.ending }
  | .working plan, .cancelled =>
      { world
        notes := [.interrupted plan.name]
        logs := []
        move := match plan.afterCancel with
          | none => .finish .cancelled
          | some span => workFor span (.unwinding plan) }
  | .unwinding plan, .elapsed => { world, notes := [], logs := [], move := .finish plan.ending }
  | .unwinding _, .cancelled => { world, notes := [], logs := [], move := .finish .cancelled }

def planned (World : Type) : Correlator World PlanNote Plan PlanState :=
  { start := startPlan
    resume := resumePlan
    pauses := PlanState.pauses
    patience := 1
    pauses_le := by
      intro state
      cases state <;> simp [PlanState.pauses]
    pauses_lt := by
      intro world state wake next waits
      cases state with
      | working plan =>
          cases wake with
          | elapsed => simp [resumePlan] at waits
          | cancelled =>
              cases holds : plan.afterCancel with
              | none => simp [resumePlan, holds] at waits
              | some span =>
                  cases span with
                  | ticks count =>
                      simp only [resumePlan, holds, workFor, Move.wait.injEq] at waits
                      rw [← waits.2]
                      simp [PlanState.pauses]
                  | immeasurable => simp [resumePlan, holds, workFor] at waits
      | unwinding plan => cases wake <;> simp [resumePlan] at waits }

end ListingAtlas.Session
