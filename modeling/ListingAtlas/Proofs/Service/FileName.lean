import Mathlib.Data.List.TakeWhile
import ListingAtlas.Service.Answer

/-!
The names of the files that the service offers. A header quotes the name as it is, so a reader of
quoted text finds just this name where nothing in it ends the quotes or escapes what follows.
-/

namespace ListingAtlas.Service

/-! ### Reading a name -/

/-- A text in quotes, which end it: behind a backslash every character stands for itself. -/
def readQuoted : List Char → Option (List Char)
  | [] => none
  | '"' :: rest => if rest.isEmpty then some [] else none
  | ['\\'] => none
  | '\\' :: character :: rest => (readQuoted rest).map (character :: ·)
  | character :: rest => (readQuoted rest).map (character :: ·)

def nameOpening : String := "attachment; filename=\""

/-- The name of the file that a header tells to save. -/
def fileNameOf? (disposition : String) : Option String :=
  if nameOpening.toList.isPrefixOf disposition.toList then
    (readQuoted (disposition.toList.drop nameOpening.toList.length)).map String.ofList
  else none

theorem readQuoted_other {character : Char} (notQuote : character ≠ '"')
    (notEscape : character ≠ '\\') (rest : List Char) :
    readQuoted (character :: rest) = (readQuoted rest).map (character :: ·) := by
  rw [readQuoted]
  · exact fun same => absurd same notQuote
  · exact fun same _ => absurd same notEscape
  · exact fun _ _ same _ => absurd same notEscape

/-- What is read is shorter than its quotation. -/
theorem length_of_readQuoted {quotation text : List Char} (read : readQuoted quotation = some text) :
    text.length < quotation.length := by
  fun_induction readQuoted quotation generalizing text with
  | case1 => cases read
  | case2 rest empty =>
      rw [← Option.some.inj read]
      exact Nat.succ_pos _
  | case3 rest more => cases read
  | case4 => cases read
  | case5 character rest ih =>
      obtain ⟨others, found, rfl⟩ := Option.map_eq_some_iff.mp read
      have shorter := ih found
      simp only [List.length_cons]
      omega
  | case6 character rest notQuote alone notEscape ih =>
      obtain ⟨others, found, rfl⟩ := Option.map_eq_some_iff.mp read
      have shorter := ih found
      simp only [List.length_cons]
      omega

/-- A text is read from its quotation just where it holds no quote and no backslash. -/
theorem readQuoted_closed_iff (text : List Char) :
    readQuoted (text ++ ['"']) = some text ↔ '"' ∉ text ∧ '\\' ∉ text := by
  induction text with
  | nil => simp [readQuoted]
  | cons character rest ih =>
      rw [List.cons_append, List.mem_cons, List.mem_cons, not_or, not_or]
      by_cases quote : character = '"'
      · subst quote
        simp [readQuoted]
      by_cases escape : character = '\\'
      · subst escape
        constructor
        · intro read
          cases rest with
          | nil => cases read
          | cons next rest =>
              obtain ⟨others, found, same⟩ := Option.map_eq_some_iff.mp read
              have shorter : others.length < (rest ++ ['"']).length := length_of_readQuoted found
              have longer := congrArg List.length same
              simp only [List.length_append, List.length_cons, List.length_nil] at shorter longer
              omega
        · exact fun both => absurd rfl both.2.1
      · rw [readQuoted_other quote escape]
        simp [ih, Ne.symm quote, Ne.symm escape]

theorem fileNameOf?_dispositionOf (name : String) :
    fileNameOf? (Reply.dispositionOf name) =
      (readQuoted (name.toList ++ ['"'])).map String.ofList := by
  have parts : (Reply.dispositionOf name).toList =
      nameOpening.toList ++ (name.toList ++ ['"']) := by
    unfold Reply.dispositionOf
    rw [String.toList_append, String.toList_append, List.append_assoc]
    rfl
  have opened : nameOpening.toList.isPrefixOf (Reply.dispositionOf name).toList = true := by
    rw [parts, List.isPrefixOf_iff_prefix]
    exact List.prefix_append _ _
  rw [fileNameOf?, if_pos opened, parts, List.drop_left]

theorem fileNameOf?_eq_some_iff (name : String) :
    fileNameOf? (Reply.dispositionOf name) = some name ↔
      '"' ∉ name.toList ∧ '\\' ∉ name.toList := by
  rw [fileNameOf?_dispositionOf, ← readQuoted_closed_iff, Option.map_eq_some_iff]
  constructor
  · rintro ⟨text, read, rfl⟩
    rw [String.toList_ofList] at read ⊢
    exact read
  · exact fun read => ⟨name.toList, read, String.ofList_toList⟩

/-! ### Stems -/

/-- What a name has before its last dot; all of it, if it has none. -/
def IsFront (name front : String) : Prop :=
  '.' ∉ name.toList ∧ front = name ∨
    ∃ back : String, '.' ∉ back.toList ∧ name = front ++ "." ++ back

/-- What files for a source are named after. -/
def IsStem (name stem : String) : Prop :=
  ∃ front, IsFront name front ∧ stem = if front = "" then "source" else front

theorem beforeLastDot_of_dot {back : List Char} (noDot : '.' ∉ back) (front : List Char) :
    beforeLastDot (String.ofList (front ++ '.' :: back)) = String.ofList front := by
  have backwards : (String.ofList (front ++ '.' :: back)).toList.reverse =
      back.reverse ++ '.' :: front.reverse := by
    simp
  have passed : ∀ character ∈ back.reverse, (character != '.') = true := by
    intro character member
    rw [bne_iff_ne]
    rintro rfl
    exact noDot (List.mem_reverse.mp member)
  have stopped : (back.reverse ++ '.' :: front.reverse).dropWhile (· != '.') =
      '.' :: front.reverse := by
    rw [List.dropWhile_append_of_pos passed]
    rfl
  rw [beforeLastDot, backwards, stopped]
  simp

theorem beforeLastDot_of_no_dot {name : String} (noDot : '.' ∉ name.toList) :
    beforeLastDot name = name := by
  have passed : name.toList.reverse.dropWhile (· != '.') = [] := by
    rw [List.dropWhile_eq_nil_iff]
    intro character member
    rw [bne_iff_ne]
    rintro rfl
    exact noDot (List.mem_reverse.mp member)
  rw [beforeLastDot, passed]

theorem isFront_iff (name front : String) : IsFront name front ↔ front = beforeLastDot name := by
  constructor
  · rintro (⟨noDot, rfl⟩ | ⟨back, noDot, rfl⟩)
    · exact (beforeLastDot_of_no_dot noDot).symm
    · have parts : front ++ "." ++ back = String.ofList (front.toList ++ '.' :: back.toList) := by
        rw [← String.toList_inj]
        simp
      rw [parts, beforeLastDot_of_dot noDot, String.ofList_toList]
  · rintro rfl
    by_cases dot : '.' ∈ name.toList
    · obtain ⟨back, front, whole, noDot⟩ :=
        List.eq_append_cons_of_mem (List.mem_reverse.mpr dot)
      have forward : name = String.ofList (front.reverse ++ '.' :: back.reverse) := by
        rw [← String.toList_inj, String.toList_ofList, ← List.reverse_reverse name.toList, whole]
        simp
      have noDotBehind : '.' ∉ back.reverse := fun member => noDot (List.mem_reverse.mp member)
      refine Or.inr ⟨String.ofList back.reverse, by rwa [String.toList_ofList], ?_⟩
      rw [forward, beforeLastDot_of_dot noDotBehind, ← String.toList_inj]
      simp
    · exact Or.inl ⟨dot, beforeLastDot_of_no_dot dot⟩

theorem isStem_iff (name stem : String) : IsStem name stem ↔ stem = stemOf name := by
  unfold IsStem stemOf
  simp only [isFront_iff, exists_eq_left, String.isEmpty_iff]
  rfl

end ListingAtlas.Service
