import Mathlib.Data.List.Basic
import ListingAtlas.Text.Utf8

/-!
Plain text behind any bytes. The byte of a plain character never goes on with a sequence, so it is
read as that character whatever stands in front of it; a sequence left unfinished there ends.
-/

namespace ListingAtlas.Text

/-- Whether each character of a text has a byte of its own. -/
def Plain (text : List Char) : Prop :=
  ∀ character ∈ text, character.toNat < 0x80

instance (text : List Char) : Decidable (Plain text) :=
  List.decidableBAll (fun character : Char => character.toNat < 0x80) text

theorem Plain.tail {character : Char} {rest : List Char} (plain : Plain (character :: rest)) :
    Plain rest :=
  fun other member => plain other (List.mem_cons_of_mem _ member)

def plainByte (character : Char) : UInt8 :=
  character.val.toUInt8

theorem toNat_plainByte {character : Char} (plain : character.toNat < 0x80) :
    (plainByte character).toNat = character.toNat := by
  change character.toNat % 256 = character.toNat
  omega

theorem encodeUtf8_plain {text : String} (plain : Plain text.toList) :
    encodeUtf8 text = text.toList.map plainByte := by
  have single (character : Char) (member : character ∈ text.toList) :
      String.utf8EncodeChar character = [plainByte character] := by
    have small := plain character member
    rw [String.utf8EncodeChar_eq_singleton (Char.utf8Size_eq_one_iff.mpr (Nat.le_of_lt_succ small)),
      plainByte]
  rw [encodeUtf8, List.flatMap_congr single]
  exact List.flatMap_pure_eq_map plainByte _

/-! ### Sequences that end -/

/-- Whether the next byte of a sequence is above those of plain characters. -/
def Unfinished.Higher (sequence : Unfinished) : Prop :=
  0x80 ≤ sequence.low

theorem beginSequence_higher {byte : UInt8} {characters : List Char} {next : Option Unfinished}
    (begun : beginSequence byte = (characters, next)) : ∀ sequence ∈ next, sequence.Higher := by
  rintro sequence rfl
  unfold beginSequence at begun
  repeat' split at begun
  all_goals cases begun
  all_goals simp only [Unfinished.Higher]
  all_goals decide

theorem beginSequence_plain {character : Char} (plain : character.toNat < 0x80) :
    beginSequence (plainByte character) = ([character], none) := by
  have same := toNat_plainByte plain
  have small : plainByte character < 0x80 := by
    rw [UInt8.lt_iff_toNat_lt, same]
    exact plain
  rw [beginSequence, if_pos small, same, Char.ofNat_toNat]

theorem decodeFrom_plain {text : List Char} (plain : Plain text) :
    decodeFrom none (text.map plainByte) = text := by
  induction text with
  | nil => rfl
  | cons character rest ih =>
      rw [List.map_cons, decodeFrom, beginSequence_plain (plain character List.mem_cons_self)]
      change [character] ++ decodeFrom none (rest.map plainByte) = character :: rest
      rw [ih plain.tail]
      rfl

/-- The first plain character ends a sequence that is not complete. -/
theorem decodeFrom_unfinished_plain {sequence : Unfinished} (higher : sequence.Higher)
    {text : List Char} (plain : Plain text) :
    decodeFrom (some sequence) (text.map plainByte) = replacement :: text := by
  cases text with
  | nil => rfl
  | cons character rest =>
      have small := plain character List.mem_cons_self
      have ends : ¬(sequence.low ≤ plainByte character &&
          plainByte character ≤ sequence.high) = true := by
        rw [Bool.and_eq_true, decide_eq_true_eq, UInt8.le_iff_toNat_le, toNat_plainByte small]
        unfold Unfinished.Higher at higher
        rw [UInt8.le_iff_toNat_le] at higher
        change 128 ≤ sequence.low.toNat at higher
        omega
      rw [List.map_cons, decodeFrom, if_neg ends, beginSequence_plain small]
      change replacement :: ([character] ++ decodeFrom none (rest.map plainByte)) = _
      rw [decodeFrom_plain plain.tail]
      rfl

theorem decodeFrom_append_plain {pending : Option Unfinished}
    (higher : ∀ sequence ∈ pending, sequence.Higher) (content : Bytes) {text : List Char}
    (plain : Plain text) :
    decodeFrom pending (content ++ text.map plainByte) = decodeFrom pending content ++ text := by
  fun_induction decodeFrom pending content with
  | case1 => exact decodeFrom_plain plain
  | case2 sequence => exact decodeFrom_unfinished_plain (higher sequence rfl) plain
  | case3 byte rest characters next begun ih =>
      rw [List.cons_append, decodeFrom, begun, List.append_assoc, ← ih (beginSequence_higher begun)]
  | case4 sequence byte rest fits bits last ih =>
      rw [List.cons_append, decodeFrom, if_pos fits]
      change (if sequence.owed ≤ 1 then _ else _) = _
      rw [if_pos last, ih (by simp)]
      rfl
  | case5 sequence byte rest fits bits more ih =>
      have nextHigher : Unfinished.Higher ⟨sequence.owed - 1, 0x80, 0xBF, bits⟩ := by
        simp only [Unfinished.Higher]
        decide
      rw [List.cons_append, decodeFrom, if_pos fits]
      change (if sequence.owed ≤ 1 then _ else _) = _
      rw [if_neg more]
      apply ih
      rintro _sequence ⟨rfl⟩
      exact nextHigher
  | case6 sequence byte rest other characters next begun ih =>
      rw [List.cons_append, decodeFrom, if_neg other, begun]
      change replacement :: (characters ++ _) = replacement :: (characters ++ _) ++ text
      rw [ih (beginSequence_higher begun), List.cons_append, List.append_assoc]

/-- Plain text written behind any bytes is read as it is. -/
theorem decodeUtf8_append_plain (content : Bytes) {text : String} (plain : Plain text.toList) :
    decodeUtf8 (content ++ encodeUtf8 text) = decodeUtf8 content ++ text := by
  rw [decodeUtf8, encodeUtf8_plain plain, decodeFrom_append_plain (by simp) content plain,
    String.ofList_append, String.ofList_toList]
  rfl

end ListingAtlas.Text
