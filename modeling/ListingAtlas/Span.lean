import ListingAtlas.Number.Binary64

/-!
Times to wait, in whole ticks. Clocks count in numbers of 64 bits, so a time beyond the greatest of
them is not measured, and a wait for it cannot begin.
-/

namespace ListingAtlas

inductive Span where
  | ticks (count : Nat)
  | immeasurable
deriving DecidableEq, Repr

/-- A time before now is no time. -/
def Span.ofInt (ticks : Int) : Span :=
  match Number.ofInt ticks with
  | .infinite false => .immeasurable
  | _ => .ticks ticks.toNat

end ListingAtlas
