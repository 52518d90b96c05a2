import Mathlib.Data.Int.GCD
import Mathlib.Data.List.GetD
import Mathlib.Data.List.Nodup
import Mathlib.Data.List.Perm.Subperm
import Mathlib.Data.Nat.Prime.Basic
import Mathlib.Data.Set.Card
import Mathlib.Tactic.NormNum.Prime
import ListingAtlas.Proofs.Correlation.Entries

/-!
The spread of colors over neighbouring lines. A line takes the color at eleven times its number,
round and round the palette; so lines share a color just if the palette divides eleven times their
distance. As eleven is prime, as many lines in a row as there are colors take every color once,
unless eleven divides the number of colors; then only an eleventh of the palette is ever used.
-/

namespace ListingAtlas

/-! ### The place of a color -/

/-- Where in a palette of so many colors a line takes its color. -/
def colorIndex (size : Nat) (sourceLine : Int) : Nat :=
  (11 * sourceLine % size).toNat

theorem cast_colorIndex {size : Nat} (colors : 0 < size) (sourceLine : Int) :
    (colorIndex size sourceLine : Int) = 11 * sourceLine % size :=
  Int.toNat_of_nonneg (Int.emod_nonneg _ (by omega))

theorem colorIndex_lt {size : Nat} (colors : 0 < size) (sourceLine : Int) :
    colorIndex size sourceLine < size := by
  have most := Int.emod_lt_of_pos (11 * sourceLine) (by omega : 0 < (size : Int))
  rw [← cast_colorIndex colors] at most
  omega

theorem colorIndex_add_size (size : Nat) (sourceLine : Int) :
    colorIndex size (sourceLine + size) = colorIndex size sourceLine := by
  rw [colorIndex, Int.mul_add, Int.add_mul_emod_self_right, colorIndex]

theorem colorIndex_eq_iff {size : Nat} (colors : 0 < size) (one other : Int) :
    colorIndex size one = colorIndex size other ↔ (size : Int) ∣ 11 * (one - other) := by
  rw [← Int.natCast_inj, cast_colorIndex colors, cast_colorIndex colors,
    Int.emod_eq_emod_iff_emod_sub_eq_zero, Int.mul_sub, Int.dvd_iff_emod_eq_zero]

/-- Where eleven divides the number of colors, it divides the place of every color that is taken. -/
theorem colorIndex_eleven {eleventh : Nat} (colors : 0 < eleventh) (sourceLine : Int) :
    colorIndex (11 * eleventh) sourceLine = 11 * (sourceLine % eleventh).toNat := by
  have least := Int.emod_nonneg sourceLine (by omega : (eleventh : Int) ≠ 0)
  rw [← Int.natCast_inj, cast_colorIndex (by omega), Int.natCast_mul, Int.natCast_mul,
    Int.toNat_of_nonneg least]
  exact Int.mul_emod_mul_of_pos _ _ (by decide)

/-- Otherwise nothing but a multiple of their number makes two lines share a place. -/
theorem dvd_of_dvd_eleven_mul {size : Nat} (spread : ¬ 11 ∣ size) {distance : Int}
    (shared : (size : Int) ∣ 11 * distance) : (size : Int) ∣ distance := by
  have prime : Nat.Prime 11 := by norm_num
  have coprime : Nat.gcd 11 size = 1 := (Nat.Prime.coprime_iff_not_dvd prime).mpr spread
  apply Int.dvd_of_dvd_mul_right_of_gcd_one shared
  rw [Int.gcd_comm]
  exact coprime

/-! ### Colors in a row -/

section

variable {palette : Palette}

theorem displayColor_eq (colors : 0 < palette.length) (sourceLine : Int) :
    displayColor palette sourceLine =
      .ok (palette.get ⟨colorIndex palette.length sourceLine, colorIndex_lt colors sourceLine⟩) := by
  obtain ⟨color, found, colorAt⟩ := exists_displayColor (List.length_pos_iff.mp colors) sourceLine
  rw [found, Except.ok.injEq]
  exact (List.getElem?_eq_some_iff.mp colorAt).2.symm

theorem displayColor_eq_iff (colors : 0 < palette.length) (distinct : palette.Nodup)
    (one other : Int) :
    displayColor palette one = displayColor palette other ↔
      (palette.length : Int) ∣ 11 * (one - other) := by
  rw [displayColor_eq colors, displayColor_eq colors, Except.ok.injEq, distinct.get_inj_iff,
    Fin.mk.injEq, colorIndex_eq_iff colors]

/-- The colors of so many lines, from one line on. -/
def colorsFrom (palette : Palette) (sourceLine : Int) (count : Nat) :
    List (Except Failure String) :=
  (List.range count).map fun further : Nat => displayColor palette (sourceLine + further)

theorem nodup_colorsFrom_iff (colors : 0 < palette.length) (distinct : palette.Nodup)
    (sourceLine : Int) :
    (colorsFrom palette sourceLine palette.length).Nodup ↔ ¬ 11 ∣ palette.length := by
  have shared (one other : Nat) : displayColor palette (sourceLine + one) =
      displayColor palette (sourceLine + other) ↔
        (palette.length : Int) ∣ 11 * ((one : Int) - other) := by
    rw [displayColor_eq_iff colors distinct, Int.add_sub_add_left]
  rw [colorsFrom, List.nodup_map_iff_inj_on List.nodup_range]
  constructor
  · rintro apart ⟨eleventh, size⟩
    -- An eleventh of the palette further on, the color of the first line comes back.
    have back := apart eleventh (List.mem_range.mpr (by omega)) 0 (List.mem_range.mpr colors)
    rw [shared] at back
    have none := back ⟨1, by omega⟩
    omega
  · intro spread one oneWithin other otherWithin same
    rw [List.mem_range] at oneWithin otherWithin
    have distance := dvd_of_dvd_eleven_mul spread ((shared one other).mp same)
    have none := Int.eq_zero_of_abs_lt_dvd distance (abs_lt.mpr ⟨by omega, by omega⟩)
    omega

theorem perm_colorsFrom_iff (colors : 0 < palette.length) (distinct : palette.Nodup)
    (sourceLine : Int) :
    (colorsFrom palette sourceLine palette.length).Perm (palette.map .ok) ↔
      (colorsFrom palette sourceLine palette.length).Nodup := by
  constructor
  · intro same
    exact same.nodup_iff.mpr (distinct.map fun _one _other => Except.ok.inj)
  · intro apart
    have among : colorsFrom palette sourceLine palette.length ⊆ palette.map .ok := by
      intro color member
      obtain ⟨further, _within, rfl⟩ := List.mem_map.mp member
      rw [displayColor_eq colors]
      exact List.mem_map_of_mem (List.get_mem _ _)
    refine (apart.subperm among).perm_of_length_le ?_
    rw [List.length_map, colorsFrom, List.length_map, List.length_range]

/-! ### All colors that are used -/

/-- The colors that some line takes. -/
def usedColors (palette : Palette) : Set String :=
  {color | ∃ sourceLine, displayColor palette sourceLine = .ok color}

/-- Every eleventh color, from the first on. -/
def everyEleventh (palette : Palette) : List String :=
  (List.range (palette.length / 11)).map fun count => palette.getD (11 * count) ""

theorem displayColor_eq_getD (colors : 0 < palette.length) (sourceLine : Int) :
    displayColor palette sourceLine =
      .ok (palette.getD (colorIndex palette.length sourceLine) "") := by
  rw [displayColor_eq colors, List.getD_eq_getElem _ _ (colorIndex_lt colors sourceLine)]
  rfl

theorem mem_usedColors_iff (colors : 0 < palette.length) (eleventh : 11 ∣ palette.length)
    (color : String) : color ∈ usedColors palette ↔ color ∈ everyEleventh palette := by
  have size : palette.length = 11 * (palette.length / 11) := (Nat.mul_div_cancel' eleventh).symm
  have place (sourceLine : Int) : displayColor palette sourceLine =
      .ok (palette.getD (11 * (sourceLine % (palette.length / 11 : Nat)).toNat) "") := by
    rw [displayColor_eq_getD colors, ← colorIndex_eleven (by omega), ← size]
  rw [everyEleventh, List.mem_map]
  constructor
  · rintro ⟨sourceLine, shown⟩
    rw [place, Except.ok.injEq] at shown
    have least := Int.emod_nonneg sourceLine (by omega : ((palette.length / 11 : Nat) : Int) ≠ 0)
    have most := Int.emod_lt_of_pos sourceLine (by omega : 0 < ((palette.length / 11 : Nat) : Int))
    exact ⟨_, List.mem_range.mpr (by omega), shown⟩
  · rintro ⟨count, within, shown⟩
    rw [List.mem_range] at within
    refine ⟨count, ?_⟩
    rw [place, Int.emod_eq_of_lt (by omega) (by omega), Int.toNat_natCast, shown]

theorem nodup_everyEleventh (distinct : palette.Nodup) : (everyEleventh palette).Nodup := by
  rw [everyEleventh, List.nodup_map_iff_inj_on List.nodup_range]
  intro one oneWithin other otherWithin same
  rw [List.mem_range] at oneWithin otherWithin
  rw [List.getD_eq_getElem _ _ (by omega), List.getD_eq_getElem _ _ (by omega),
    distinct.getElem_inj_iff] at same
  omega

theorem ncard_usedColors (colors : 0 < palette.length) (distinct : palette.Nodup)
    (eleventh : 11 ∣ palette.length) : (usedColors palette).ncard = palette.length / 11 := by
  have used : usedColors palette = (everyEleventh palette).toFinset := by
    ext color
    rw [mem_usedColors_iff colors eleventh, Finset.mem_coe, List.mem_toFinset]
  rw [used, Set.ncard_coe_finset, List.toFinset_card_of_nodup (nodup_everyEleventh distinct),
    everyEleventh, List.length_map, List.length_range]

end

/-- The color of a line is one of the palette, at a place within its bounds, and comes back as many
lines further on as there are colors. Of distinct colors, so many lines in a row show each of them
once, and no two alike, just if eleven does not divide their number; if it does, an eleventh of
them is all that is ever used. Neighbours are alike just in a palette of one or of eleven. -/
theorem displayColor_spreads {palette : Palette} (colors : palette ≠ [])
    (distinct : palette.Nodup) (sourceLine : Int) :
    let size := palette.length
    let place := sourceLine * 11 % size
    (0 ≤ place ∧ place < size ∧ ∃ color, palette[place.toNat]? = some color ∧
        displayColor palette sourceLine = .ok color) ∧
      displayColor palette (sourceLine + size) = displayColor palette sourceLine ∧
      ((colorsFrom palette sourceLine size).Nodup ↔ ¬ 11 ∣ size) ∧
      ((colorsFrom palette sourceLine size).Perm (palette.map .ok) ↔ ¬ 11 ∣ size) ∧
      (11 ∣ size → (usedColors palette).ncard = size / 11) ∧
      (displayColor palette (sourceLine + 1) = displayColor palette sourceLine ↔
        size = 1 ∨ size = 11) := by
  intro size place
  have positive : 0 < palette.length := List.length_pos_iff.mpr colors
  have spread := nodup_colorsFrom_iff positive distinct sourceLine
  refine ⟨⟨?_, ?_, ?_⟩, ?_, spread, ?_, ncard_usedColors positive distinct, ?_⟩
  · exact Int.emod_nonneg _ (by omega)
  · exact Int.emod_lt_of_pos _ (by omega)
  · obtain ⟨color, shown, found⟩ := exists_displayColor colors sourceLine
    rw [Int.mul_comm] at found
    exact ⟨color, found, shown⟩
  · rw [displayColor_eq_getD positive, displayColor_eq_getD positive, colorIndex_add_size]
  · exact (perm_colorsFrom_iff positive distinct sourceLine).trans spread
  · have prime : Nat.Prime 11 := by norm_num
    have step : 11 * (sourceLine + 1 - sourceLine) = (11 : Nat) := by omega
    rw [displayColor_eq_iff positive distinct, step, Int.natCast_dvd_natCast, Nat.dvd_prime prime]

/-- With eleven colors every line shows the first of them. -/
theorem displayColor_spreads_eleven :
    let palette := ["#100", "#200", "#300", "#400", "#500", "#600", "#700", "#800", "#900", "#a00",
      "#b00"]
    palette ≠ [] ∧ palette.Nodup ∧ (usedColors palette).ncard = 1 ∧
      displayColor palette (-6) = displayColor palette (-7) := by
  intro palette
  have colors : palette ≠ [] := by decide
  have distinct : palette.Nodup := by decide
  obtain ⟨_found, _again, _apart, _each, used, neighbours⟩ :=
    displayColor_spreads colors distinct (-7)
  exact ⟨colors, distinct, (used (by decide)).trans (by decide),
    neighbours.mpr (Or.inr (by decide))⟩

end ListingAtlas
