import ListingAtlas.Session.Correlator
import ListingAtlas.Session.Token

/-!
How long a call of a correlator goes on after it has been cancelled. The world may change between two
stretches, so that every world is thought possible at each of them.
-/

namespace ListingAtlas.Session

variable {World Note Request Inner : Type}

section

variable (behaviour : Behaviour World Note Request Inner)

/-- Where a call can wait that nobody has cancelled, and for how long. -/
inductive Attained : Option Nat → Inner → Prop
  | start (world : World) (request : Request) (key : String) (count : Nat) {ticks : Option Nat}
      {inner : Inner}
      (move : (behaviour.start world request (Token.issue key (count + 1))).move =
        .wait ticks inner) : Attained ticks inner
  | resume (world : World) {elapsed : Nat} {inner next : Inner} {ticks : Option Nat}
      (before : Attained (some elapsed) inner)
      (move : (behaviour.resume world inner .elapsed).move = .wait ticks next) :
      Attained ticks next

/-- Whether a call that goes on may wait once more when no more than some ticks are left to it, or
none. -/
inductive Overstays : Nat → Inner → Prop
  | sleeps (world : World) {left : Nat} {inner next : Inner}
      (move : (behaviour.resume world inner .elapsed).move = .wait none next) :
      Overstays left inner
  | waits (world : World) {left ticks : Nat} {inner next : Inner}
      (move : (behaviour.resume world inner .elapsed).move = .wait (some ticks) next)
      (late : left ≤ ticks) : Overstays left inner
  | lingers (world : World) {left ticks : Nat} {inner next : Inner}
      (move : (behaviour.resume world inner .elapsed).move = .wait (some ticks) next)
      (rest : Overstays (left - ticks) next) : Overstays left inner

/-- Whether a call that is cancelled where it waits may still be in flight when a task starts that
was scheduled thereupon. A single wait may take as long as the debounce, since whoever falls asleep
first wakes first; any more must be over before. -/
inductive Overruns (debounce : Nat) (inner : Inner) : Prop
  | sleeps (world : World) {next : Inner}
      (move : (behaviour.resume world inner .cancelled).move = .wait none next) :
      Overruns debounce inner
  | waits (world : World) {ticks : Nat} {next : Inner}
      (move : (behaviour.resume world inner .cancelled).move = .wait (some ticks) next)
      (late : debounce < ticks) : Overruns debounce inner
  | lingers (world : World) {ticks : Nat} {next : Inner}
      (move : (behaviour.resume world inner .cancelled).move = .wait (some ticks) next)
      (rest : Overstays behaviour (debounce - ticks) next) : Overruns debounce inner

/-- Whether each call that is cancelled where it can wait ends in time. -/
def EndsInTime (debounce : Nat) : Prop :=
  ∀ ticks inner, Attained behaviour ticks inner → ¬ Overruns behaviour debounce inner

end

variable {behaviour : Behaviour World Note Request Inner}

theorem Overstays.mono {left less : Nat} {inner : Inner}
    (overstays : Overstays behaviour left inner)
    (fewer : less ≤ left) : Overstays behaviour less inner := by
  induction overstays generalizing less with
  | sleeps world move => exact .sleeps world move
  | waits world move late => exact .waits world move (Nat.le_trans fewer late)
  | lingers world move _rest ih => exact .lingers world move (ih (Nat.sub_le_sub_right fewer _))

/-- A call that does not overstay waits for less than is left to it, if it waits at all. -/
theorem wait_of_not_overstays {left : Nat} {inner next : Inner} {world : World}
    {ticks : Option Nat} (inTime : ¬ Overstays behaviour left inner)
    (move : (behaviour.resume world inner .elapsed).move = .wait ticks next) :
    ∃ count, ticks = some count ∧ count < left ∧ ¬ Overstays behaviour (left - count) next := by
  cases ticks with
  | none => exact absurd (.sleeps world move) inTime
  | some count =>
      refine ⟨count, rfl, ?_, fun rest => inTime (.lingers world move rest)⟩
      exact Nat.lt_of_not_le fun late => inTime (.waits world move late)

theorem wait_of_not_overruns {debounce : Nat} {inner next : Inner} {world : World}
    {ticks : Option Nat} (inTime : ¬ Overruns behaviour debounce inner)
    (move : (behaviour.resume world inner .cancelled).move = .wait ticks next) :
    ∃ count, ticks = some count ∧ count ≤ debounce ∧
      ¬ Overstays behaviour (debounce - count) next := by
  cases ticks with
  | none => exact absurd (.sleeps world move) inTime
  | some count =>
      refine ⟨count, rfl, ?_, fun rest => inTime (.lingers world move rest)⟩
      exact Nat.le_of_not_lt fun late => inTime (.waits world move late)

end ListingAtlas.Session
