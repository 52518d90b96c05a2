/-!
Sets of characters given by inclusive ranges of code points, as property tables list them.
-/

namespace ListingAtlas.Text

/-- Inclusive ranges of code points in ascending order. -/
abbrev Ranges := List (Nat × Nat)

def Ranges.contains (ranges : Ranges) (character : Char) : Bool :=
  ranges.any fun range => range.1 ≤ character.toNat && character.toNat ≤ range.2

end ListingAtlas.Text
