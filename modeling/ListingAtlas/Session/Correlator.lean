import ListingAtlas.Correlation.Entry
import ListingAtlas.Failure
import ListingAtlas.Log
import ListingAtlas.Session.Token

/-!
Correlators: what a session runs for a request. A correlator works in stretches; between two of them
it waits, and learns after each wait whether the time is over or its task is cancelled. It may wait
for no time, which gives way to tasks that are ready. What it does is its behaviour; a correlator
gives way only finitely often in a row, so that all tasks come to wait.
-/

namespace ListingAtlas.Session

inductive Wake where
  | elapsed
  | cancelled
deriving DecidableEq, Repr

/-- What gets out of code that is not the session's own. -/
inductive Escape where
  | failed (failure : Failure)
  | cancelled
deriving DecidableEq, Repr

inductive Ending where
  | result (correlation : Correlation)
  | failure (failure : Failure)
  /-- A failure whose text cannot be made: what comes of the attempt gets out in its place. -/
  | wordless (isExpected : Bool) (escape : Escape)
  | cancelled
deriving DecidableEq, Repr

/-- What follows a stretch; a wait without ticks lasts until its task is cancelled. -/
inductive Move (State : Type) where
  | wait (ticks : Option Nat) (state : State)
  | finish (ending : Ending)

/-- A stretch of work: what it made of the world, what it had to note and to log, what follows. -/
structure Progress (World Note State : Type) where
  world : World
  notes : List Note
  logs : List LogRecord
  move : Move State

structure Behaviour (World Note Request State : Type) where
  start : World → Request → Token → Progress World Note State
  resume : World → State → Wake → Progress World Note State

structure Correlator (World Note Request State : Type) extends
    Behaviour World Note Request State where
  /-- How often a state can give way in a row. -/
  pauses : State → Nat
  patience : Nat
  pauses_le : ∀ state, pauses state ≤ patience
  pauses_lt : ∀ world state wake next,
    (resume world state wake).move = .wait (some 0) next → pauses next < pauses state

end ListingAtlas.Session
