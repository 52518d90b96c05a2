import ListingAtlas.Proofs.Text.EditorText
import ListingAtlas.Proofs.Text.MadeOf
import ListingAtlas.Text.Disguise

/-!
A disguise that was chosen for texts. It hides no plain character, and nothing at all where no half
has to be hidden; every half is hidden in it, so a text in which nothing is hidden is a string.
-/

namespace ListingAtlas.Text.Disguise

/-- A row of private characters. -/
def IsRow (disguise : Disguise) : Prop :=
  0xF0000 ≤ disguise.first ∧ disguise.first + halfCount ≤ 0x110000

theorem choose_cases (texts : List EditorText) :
    ((∀ text ∈ texts, ∀ point ∈ text.codePoints, point.isSurrogate = false) ∧
      choose texts = needless) ∨ (choose texts).IsRow := by
  unfold choose
  split
  · rename_i none
    left
    simpa [List.all_eq_true] using none
  · right
    cases found : (privateRows.map mk).find? fun disguise => texts.all disguise.isUnused with
    | none =>
        simp only [found, Option.getD_none, IsRow, halfCount]
        omega
    | some disguise =>
        obtain ⟨first, private_, rfl⟩ := List.mem_map.mp (List.mem_of_find?_eq_some found)
        obtain ⟨row, within, rfl⟩ := List.mem_map.mp private_
        rw [List.mem_range] at within
        simp only [found, Option.getD_some, IsRow, halfCount]
        omega

theorem hides_iff (disguise : Disguise) (character : Char) :
    disguise.hides character = true ↔
      disguise.first ≤ character.toNat ∧ character.toNat < disguise.first + halfCount := by
  rw [hides, Bool.and_eq_true, decide_eq_true_eq, decide_eq_true_eq]

/-- Plain characters are shown as they are, whatever the disguise was chosen for. -/
theorem keepsPlain_choose (texts : List EditorText) :
    KeepsPlain fun character => (choose texts).hides character = false := by
  intro character plain
  rw [← Bool.not_eq_true, hides_iff]
  rcases choose_cases texts with ⟨_scalars, same⟩ | row
  · rw [same]
    simp only [needless]
    omega
  · have behind := row.1
    omega

theorem isWornIn_eq_false_iff (disguise : Disguise) (text : String) :
    disguise.isWornIn text = false ↔ MadeOf (fun character => disguise.hides character = false) text
    := by
  rw [isWornIn, List.any_eq_false]
  simp only [Bool.not_eq_true]
  rfl

/-! ### Putting it on and taking it off -/

theorem putOn_ofString (disguise : Disguise) (text : String) :
    disguise.putOn (EditorText.ofString text) = text := by
  have kept : disguise.putOnPoint ∘ CodePoint.scalar = id := rfl
  rw [putOn, EditorText.ofString, List.map_map, kept, List.map_id, String.ofList_toList]

theorem toNat_ofNat_of_valid {number : Nat} (valid : number.isValidChar) :
    (Char.ofNat number).toNat = number := by
  rw [Char.ofNat, dif_pos valid]
  rfl

theorem hides_half {disguise : Disguise} (row : disguise.IsRow) (unit : Nat) :
    disguise.hides (disguise.putOnPoint (.surrogate unit)) = true := by
  have within : (unit - firstHalf) % halfCount < halfCount := Nat.mod_lt _ (by decide)
  obtain ⟨least, most⟩ := row
  have valid : (disguise.first + (unit - firstHalf) % halfCount).isValidChar := by
    right
    omega
  rw [hides_iff, putOnPoint, toNat_ofNat_of_valid valid]
  omega

/-- Where nothing is hidden, the text is what it looks like. -/
theorem ofString_putOn {texts : List EditorText} {text : EditorText} (known : text ∈ texts)
    (unworn : (choose texts).isWornIn ((choose texts).putOn text) = false) :
    EditorText.ofString ((choose texts).putOn text) = text := by
  have scalars : ∀ point ∈ text.codePoints, point.isSurrogate = false := by
    rcases choose_cases texts with ⟨none, _same⟩ | row
    · exact none text known
    · intro point member
      cases point with
      | scalar character => rfl
      | surrogate unit =>
          have shown : (choose texts).putOnPoint (.surrogate unit) ∈
              ((choose texts).putOn text).toList := by
            rw [putOn, String.toList_ofList]
            exact List.mem_map_of_mem member
          rw [isWornIn_eq_false_iff] at unworn
          have kept : (choose texts).hides ((choose texts).putOnPoint (.surrogate unit)) = false :=
            unworn _ shown
          rw [hides_half row] at kept
          cases kept
  have same : ∀ point ∈ text.codePoints,
      CodePoint.scalar ((choose texts).putOnPoint point) = point := by
    intro point member
    cases point with
    | scalar character => rfl
    | surrogate unit => cases scalars _ member
  have mapped : text.codePoints.map (CodePoint.scalar ∘ (choose texts).putOnPoint) =
      text.codePoints :=
    (List.map_congr_left same).trans (List.map_id _)
  rw [EditorText.ofString, putOn, String.toList_ofList, List.map_map, mapped]

theorem loneHalves?_takeOff (disguise : Disguise) (text : String) :
    (disguise.takeOff text).loneHalves? = none ↔ disguise.isWornIn text = false := by
  rw [EditorText.loneHalves?_eq_none_iff, isWornIn_eq_false_iff, takeOff, List.forall_mem_map]
  refine forall_congr' fun character => imp_congr_right fun _member => ?_
  unfold takeOffChar
  cases hidden : disguise.hides character with
  | true => simp [hidden, CodePoint.isSurrogate]
  | false => simp [hidden, CodePoint.isSurrogate]

end ListingAtlas.Text.Disguise
