import Mathlib.Data.List.TakeWhile
import ListingAtlas.Proofs.Text.Classes

/-!
Texts without the blanks at their ends. What is left of a text begins and ends with no blank, blanks
alone leave nothing, and a text is what is left of it with blanks around it.
-/

namespace ListingAtlas.Text

theorem dropBlanksEnd_append (front rest : List Char) :
    dropBlanksEnd (front ++ rest) =
      if dropBlanksEnd rest = [] then dropBlanksEnd front else front ++ dropBlanksEnd rest := by
  unfold dropBlanksEnd dropBlanks
  rw [List.reverse_append, List.dropWhile_append]
  cases rest.reverse.dropWhile isBlank with
  | nil => rfl
  | cons last others => simp

theorem head?_dropBlanksEnd {characters : List Char} (something : dropBlanksEnd characters ≠ []) :
    (dropBlanksEnd characters).head? = characters.head? := by
  have front : dropBlanksEnd characters <+: characters := by
    have back := List.reverse_prefix.mpr (List.dropWhile_suffix isBlank (l := characters.reverse))
    rw [List.reverse_reverse] at back
    exact back
  obtain ⟨rest, whole⟩ := front
  rw [← whole, List.head?_append_of_ne_nil _ something, whole]

/-- Where nothing is left without the blanks at the end, all are blanks. -/
theorem trimChars_eq_nil {characters : List Char} (nothing : dropBlanksEnd characters = []) :
    trimChars characters = [] := by
  rw [dropBlanksEnd, List.reverse_eq_nil_iff, dropBlanks, List.dropWhile_eq_nil_iff] at nothing
  have all : dropBlanks characters = [] := by
    rw [dropBlanks, List.dropWhile_eq_nil_iff]
    exact fun character member => nothing character (List.mem_reverse.mpr member)
  rw [trimChars, all]
  rfl

/-- What is left of a text that does not begin with a blank does not either. -/
theorem trimChars_of_head {characters : List Char} {first : Char}
    (begins : characters.head? = some first) (ends : isBlank first = false) :
    trimChars characters = dropBlanksEnd characters ∧ dropBlanksEnd characters ≠ [] := by
  obtain ⟨rest, rfl⟩ := List.head?_eq_some_iff.mp begins
  have whole : dropBlanks (first :: rest) = first :: rest :=
    List.dropWhile_cons_of_neg (by simp [ends])
  have kept := dropBlanksEnd_append_stop [] ends rest
  rw [List.nil_append, List.nil_append] at kept
  refine ⟨by rw [trimChars, whole], ?_⟩
  rw [kept]
  exact List.cons_ne_nil _ _

/-- A text that is trimmed at both ends does not begin with a blank. -/
theorem not_isBlank_of_trimChars {characters : List Char} {first : Char}
    (begins : (trimChars characters).head? = some first) : isBlank first = false := by
  have something : dropBlanksEnd (dropBlanks characters) ≠ [] := by
    intro nothing
    rw [trimChars, nothing] at begins
    cases begins
  rw [trimChars, head?_dropBlanksEnd something] at begins
  have stops := List.head?_dropWhile_not isBlank characters
  rw [← dropBlanks, begins] at stops
  simpa using stops

/-! ### Blanks around a text -/

section

variable {before text after : List Char}

theorem dropBlanks_append (blanks : ∀ character ∈ before, isBlank character = true) :
    dropBlanks (before ++ text) = dropBlanks text :=
  List.dropWhile_append_of_pos blanks

theorem dropBlanks_of_blanks (blanks : ∀ character ∈ text, isBlank character = true) :
    dropBlanks text = [] :=
  List.dropWhile_eq_nil_iff.mpr blanks

theorem dropBlanksEnd_append_blanks (blanks : ∀ character ∈ after, isBlank character = true) :
    dropBlanksEnd (text ++ after) = dropBlanksEnd text := by
  rw [dropBlanksEnd, List.reverse_append, dropBlanks_append, dropBlanksEnd]
  intro character member
  exact blanks character (List.mem_reverse.mp member)

/-- Blanks at the ends make no difference. -/
theorem trimChars_padded (first : ∀ character ∈ before, isBlank character = true)
    (last : ∀ character ∈ after, isBlank character = true) :
    trimChars (before ++ (text ++ after)) = trimChars text := by
  rw [trimChars, dropBlanks_append first, dropBlanks, List.dropWhile_append]
  split
  · rename_i nothing
    have all : dropBlanks text = [] := List.isEmpty_iff.mp nothing
    rw [trimChars, all, ← dropBlanks, dropBlanks_of_blanks last]
  · rw [dropBlanksEnd_append_blanks last]
    rfl

/-- A text is what is left of it with blanks at its ends. -/
theorem exists_padded (text : List Char) :
    ∃ before after, (∀ character ∈ before, isBlank character = true) ∧
      (∀ character ∈ after, isBlank character = true) ∧
      text = before ++ (trimChars text ++ after) := by
  have blanks (run : List Char) : ∀ character ∈ run.takeWhile isBlank, isBlank character = true :=
    fun _character member => List.mem_takeWhile_imp member
  have back : dropBlanks text = trimChars text ++
      ((dropBlanks text).reverse.takeWhile isBlank).reverse := by
    rw [trimChars, dropBlanksEnd, ← List.reverse_append]
    nth_rewrite 3 [dropBlanks]
    rw [List.takeWhile_append_dropWhile, List.reverse_reverse]
  refine ⟨text.takeWhile isBlank, ((dropBlanks text).reverse.takeWhile isBlank).reverse,
    blanks text, ?_, ?_⟩
  · intro character member
    exact blanks _ character (List.mem_reverse.mp member)
  · rw [← back, dropBlanks, List.takeWhile_append_dropWhile]

theorem trimChars_of_no_blank (plain : ∀ character ∈ text, isBlank character = false) :
    trimChars text = text := by
  have stays {run : List Char} (none : ∀ character ∈ run, isBlank character = false) :
      dropBlanks run = run := by
    cases run with
    | nil => rfl
    | cons first rest => exact List.dropWhile_cons_of_neg (by simp [none first])
  rw [trimChars, stays plain, dropBlanksEnd, stays, List.reverse_reverse]
  intro character member
  exact plain character (List.mem_reverse.mp member)

theorem not_isBlank_of_getLast? {last : Char} (ends : (trimChars text).getLast? = some last) :
    isBlank last = false := by
  rw [trimChars, dropBlanksEnd, List.getLast?_reverse, dropBlanks] at ends
  have stops := List.head?_dropWhile_not isBlank (dropBlanks text).reverse
  rw [ends] at stops
  simpa using stops

theorem trimChars_trimChars (text : List Char) : trimChars (trimChars text) = trimChars text := by
  obtain ⟨before, after, first, last, whole⟩ := exists_padded text
  conv_rhs => rw [whole]
  rw [trimChars_padded first last]

end

end ListingAtlas.Text
