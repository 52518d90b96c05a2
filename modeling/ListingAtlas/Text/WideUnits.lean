import ListingAtlas.Text.EditorText
import ListingAtlas.Text.Utf8

/-!
Text written in units of two or four bytes. Halves of surrogate pairs that stand alone are read as
such; bytes that are too few for a unit, and units beyond the last code point, are not text.
-/

namespace ListingAtlas.Text

/-- Which byte of a unit comes first. -/
inductive ByteOrder where
  | leastFirst
  | greatestFirst
deriving DecidableEq, Repr

inductive UnitWidth where
  | two
  | four
deriving DecidableEq, Repr

structure WideUnits where
  width : UnitWidth
  order : ByteOrder
deriving DecidableEq, Repr

/-! ### Units -/

/-- The number that bytes write, the greatest first. -/
def numberOfBytes (bytes : Bytes) : Nat :=
  bytes.foldl (fun number byte => number * 256 + byte.toNat) 0

def ByteOrder.number (order : ByteOrder) (bytes : Bytes) : Nat :=
  match order with
  | .leastFirst => numberOfBytes bytes.reverse
  | .greatestFirst => numberOfBytes bytes

def pairs? (order : ByteOrder) : Bytes → Option (List Nat)
  | [] => some []
  | a :: b :: rest => (pairs? order rest).map (order.number [a, b] :: ·)
  | _ => none

def quadruples? (order : ByteOrder) : Bytes → Option (List Nat)
  | [] => some []
  | a :: b :: c :: d :: rest =>
      (quadruples? order rest).map (order.number [a, b, c, d] :: ·)
  | _ => none

/-! ### Code points -/

/-- A high half and the low half behind it are one character. -/
def joinHalves : List Nat → Option (List CodePoint)
  | [] => some []
  | [unit] => (CodePoint.ofNat? unit).map fun point => [point]
  | high :: low :: rest =>
      if isHighHalf high && isLowHalf low then
        (joinHalves rest).map (CodePoint.ofHalves high low :: ·)
      else
        match CodePoint.ofNat? high, joinHalves (low :: rest) with
        | some point, some points => some (point :: points)
        | _, _ => none

def WideUnits.decode? (units : WideUnits) (bytes : Bytes) : Option EditorText :=
  match units.width with
  | .two => ((pairs? units.order bytes).bind joinHalves).map .mk
  | .four => ((quadruples? units.order bytes).bind (List.mapM CodePoint.ofNat?)).map .mk

/-! ### Recognition -/

/-- Text that begins with two characters below 256 shows the width of its units, and their order, by
the zeros among its first four bytes; of shorter text, only two bytes show anything. -/
def WideUnits.recognize? : Bytes → Option WideUnits
  | 0 :: 0 :: _ :: _ :: _ => some ⟨.four, .greatestFirst⟩
  | 0 :: _ :: _ :: _ :: _ => some ⟨.two, .greatestFirst⟩
  | _ :: 0 :: 0 :: 0 :: _ => some ⟨.four, .leastFirst⟩
  | _ :: 0 :: _ :: _ :: _ => some ⟨.two, .leastFirst⟩
  | [0, _] => some ⟨.two, .greatestFirst⟩
  | [_, 0] => some ⟨.two, .leastFirst⟩
  | _ => none

end ListingAtlas.Text
