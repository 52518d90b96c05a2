import Mathlib.Data.List.Basic
import ListingAtlas.Text.Blank
import ListingAtlas.Text.Digit
import ListingAtlas.Text.Word

/-!
Classes of characters that have none in common. A blank is neither a word character nor a digit, so
that a run of one class ends where the other begins.
-/

namespace ListingAtlas.Text

/-! ### Classes by their code points -/

/-- The code points of some ranges, one by one. -/
def Ranges.points (ranges : Ranges) : List Nat :=
  ranges.flatMap fun range => List.range' range.1 (range.2 + 1 - range.1)

/-- What holds of each code point of a class holds of each of its characters. -/
theorem Ranges.forall_of_points {ranges : Ranges} (holds : Char → Bool)
    (all : ranges.points.all (fun point => holds (Char.ofNat point)) = true) {character : Char}
    (contained : ranges.contains character = true) : holds character = true := by
  obtain ⟨range, member, within⟩ := List.any_eq_true.mp contained
  rw [Bool.and_eq_true, decide_eq_true_eq, decide_eq_true_eq] at within
  have point : character.toNat ∈ ranges.points := by
    refine List.mem_flatMap.mpr ⟨range, member, List.mem_range'_1.mpr ⟨within.1, ?_⟩⟩
    omega
  have here := List.all_eq_true.mp all character.toNat point
  rw [Char.ofNat_toNat] at here
  exact here

theorem not_isWord_of_isBlank {character : Char} (blank : isBlank character = true) :
    isWord character = false := by
  have all : blankRanges.points.all (fun point => !isWord (Char.ofNat point)) = true := by
    decide +kernel
  simpa using Ranges.forall_of_points (fun character => !isWord character) all blank

theorem not_isDigit_of_isBlank {character : Char} (blank : isBlank character = true) :
    isDigit character = false := by
  have all : blankRanges.points.all (fun point => !isDigit (Char.ofNat point)) = true := by
    decide +kernel
  simpa using Ranges.forall_of_points (fun character => !isDigit character) all blank

theorem not_isBlank_of_isDigit {character : Char} (digit : isDigit character = true) :
    isBlank character = false := by
  rw [← Bool.not_eq_true]
  intro blank
  rw [not_isDigit_of_isBlank blank] at digit
  cases digit

/-! ### Where a run ends -/

section

variable {Element : Type} {holds : Element → Bool} {run rest : List Element} {stop : Element}

theorem takeWhile_of_stop (all : run.all holds = true) (ends : holds stop = false) :
    (run ++ stop :: rest).takeWhile holds = run := by
  rw [List.takeWhile_append_of_pos (List.all_eq_true.mp all),
    List.takeWhile_cons_of_neg (by simp [ends]), List.append_nil]

theorem dropWhile_of_stop (all : run.all holds = true) (ends : holds stop = false) :
    (run ++ stop :: rest).dropWhile holds = stop :: rest := by
  rw [List.dropWhile_append_of_pos (List.all_eq_true.mp all),
    List.dropWhile_cons_of_neg (by simp [ends])]

/-- Runs that end at an element of another kind are equal if what they begin is. -/
theorem run_unique {other behind : List Element} {last : Element} (all : run.all holds = true)
    (ends : holds stop = false) (allToo : other.all holds = true) (endsToo : holds last = false)
    (same : run ++ stop :: rest = other ++ last :: behind) :
    run = other ∧ stop :: rest = last :: behind := by
  have runs := congrArg (List.takeWhile holds) same
  rw [takeWhile_of_stop all ends, takeWhile_of_stop allToo endsToo] at runs
  rw [runs] at same
  exact ⟨runs, List.append_cancel_left same⟩

/-- What holds in front of an element for which it does not hold is dropped there only. -/
theorem dropWhile_append_stop (front : List Element) (ends : holds stop = false) :
    (front ++ stop :: rest).dropWhile holds = front.dropWhile holds ++ stop :: rest := by
  rw [List.dropWhile_append]
  split
  · rename_i empty
    rw [List.isEmpty_iff.mp empty, List.dropWhile_cons_of_neg (by simp [ends]), List.nil_append]
  · rfl

/-- A marker without some element ends a list just if it ends what stands behind this element. -/
theorem suffix_append_stop {marker : List Element} (absent : stop ∉ marker)
    (front : List Element) : marker <:+ front ++ stop :: rest ↔ marker <:+ rest := by
  constructor
  · intro ends
    rcases List.suffix_or_suffix_of_suffix ends (List.suffix_append front _) with short | long
    · rcases List.suffix_cons_iff.mp short with same | behind
      · rw [same] at absent
        exact absurd List.mem_cons_self absent
      · exact behind
    · exact absurd (long.subset List.mem_cons_self) absent
  · intro ends
    exact ends.trans ((List.suffix_cons stop rest).trans (List.suffix_append front _))

end

/-- Blanks at the end of a text are blanks at the end of what stands behind another character. -/
theorem dropBlanksEnd_append_stop (front : List Char) {stop : Char} (ends : isBlank stop = false)
    (rest : List Char) :
    dropBlanksEnd (front ++ stop :: rest) = front ++ stop :: dropBlanksEnd rest := by
  unfold dropBlanksEnd dropBlanks
  rw [List.reverse_append, List.reverse_cons, List.append_assoc, List.singleton_append,
    dropWhile_append_stop rest.reverse ends, List.reverse_append, List.reverse_cons,
    List.reverse_reverse, List.append_assoc, List.singleton_append]

theorem dropBlanksEnd_concat (front : List Char) {last : Char} (blank : isBlank last = true) :
    dropBlanksEnd (front ++ [last]) = dropBlanksEnd front := by
  unfold dropBlanksEnd dropBlanks
  rw [List.reverse_append, List.reverse_singleton, List.singleton_append,
    List.dropWhile_cons_of_pos blank]

end ListingAtlas.Text
