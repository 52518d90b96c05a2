import Mathlib.Data.List.Infix
import ListingAtlas.Proofs.Command.Words

/-!
Command lines that are written from arguments. An argument can be written between quotation marks, or
between apostrophes, or as it is; each of these styles admits the arguments that it does not change.
Splitting what is written gives the arguments again.
-/

namespace ListingAtlas.Command

/-! ### Styles -/

inductive Style where
  | marks
  | apostrophes
  | bare
deriving DecidableEq, Repr

/-- Every quotation mark with a backslash in front. -/
def escapedMarks (text : List Char) : List Char :=
  text.flatMap fun character => if character = '"' then ['\\', '"'] else [character]

namespace Style

/-- No style can write a backslash at the end. Only quotation marks admit an escaped one. -/
def Admits (style : Style) (argument : String) : Prop :=
  let text := argument.toList
  text.getLast? ≠ some '\\' ∧
    match style with
    | .marks => True
    | .apostrophes => '\'' ∉ text ∧ ¬ ['\\', '"'] <:+: text
    | .bare =>
        text ≠ [] ∧ ' ' ∉ text ∧ text.head? ≠ some '\'' ∧ text.head? ≠ some '"' ∧
          ¬ ['\\', '"'] <:+: text

instance (style : Style) (argument : String) : Decidable (style.Admits argument) :=
  match style with
  | .marks => inferInstanceAs (Decidable (_ ∧ True))
  | .apostrophes => inferInstanceAs (Decidable (_ ∧ _ ∧ _))
  | .bare => inferInstanceAs (Decidable (_ ∧ _ ∧ _ ∧ _ ∧ _ ∧ _))

def write (style : Style) (argument : String) : List Char :=
  match style with
  | .marks => '"' :: (escapedMarks argument.toList ++ ['"'])
  | .apostrophes => '\'' :: (argument.toList ++ ['\''])
  | .bare => argument.toList

end Style

/-- A line writes some arguments, each in a style that admits it, with one blank or more between two
of them; there may be blanks at both ends as well. -/
inductive Writes : List Char → List String → Prop
  | nothing : Writes [] []
  | blank {line : List Char} {arguments : List String} (rest : Writes line arguments) :
      Writes (' ' :: line) arguments
  | last (style : Style) {argument : String} (admitted : style.Admits argument) :
      Writes (style.write argument) [argument]
  | next (style : Style) {argument : String} (admitted : style.Admits argument)
      {line : List Char} {arguments : List String} (rest : Writes line arguments) :
      Writes (style.write argument ++ ' ' :: line) (argument :: arguments)

/-! ### Quotes -/

section

variable {text rest : List Char}

theorem escapedMarks_cons_mark (text : List Char) :
    escapedMarks ('"' :: text) = '\\' :: '"' :: escapedMarks text := by
  rfl

theorem escapedMarks_cons_other {character : Char} (other : character ≠ '"') (text : List Char) :
    escapedMarks (character :: text) = character :: escapedMarks text := by
  rw [escapedMarks, List.flatMap_cons, if_neg other]
  rfl

theorem escapes_escapedMarks (before : Char) (text : List Char) :
    Escapes '"' before (escapedMarks text) := by
  induction text generalizing before with
  | nil => exact escapes_nil
  | cons character text ih =>
      by_cases mark : character = '"'
      · rw [mark, escapedMarks_cons_mark, escapes_cons, escapes_cons]
        exact ⟨nofun, fun _mark => rfl, ih '"'⟩
      · rw [escapedMarks_cons_other mark, escapes_cons]
        exact ⟨fun same => absurd same mark, ih character⟩

theorem getLast?_escapedMarks (text : List Char) :
    (escapedMarks text).getLast? = text.getLast? := by
  induction text with
  | nil => rfl
  | cons character text ih =>
      rw [List.getLast?_cons, ← ih]
      by_cases mark : character = '"'
      · rw [mark, escapedMarks_cons_mark, List.getLast?_cons_cons, List.getLast?_cons]
      · rw [escapedMarks_cons_other mark, List.getLast?_cons]

theorem plainMarks_cons {character : Char}
    (ordinary : character ≠ '\\' ∨ rest.head? ≠ some '"') :
    plainMarks (character :: rest) = character :: plainMarks rest := by
  rw [plainMarks]
  rintro others rfl rfl
  rcases ordinary with other | other
  · exact other rfl
  · exact other rfl

theorem head?_escapedMarks (text : List Char) : (escapedMarks text).head? ≠ some '"' := by
  cases text with
  | nil => exact nofun
  | cons character text =>
      by_cases mark : character = '"'
      · subst mark
        rw [escapedMarks_cons_mark, List.head?_cons]
        decide
      · rw [escapedMarks_cons_other mark]
        exact fun same => mark (Option.some.inj same)

theorem plainMarks_escapedMarks (text : List Char) : plainMarks (escapedMarks text) = text := by
  induction text with
  | nil => rfl
  | cons character text ih =>
      by_cases mark : character = '"'
      · subst mark
        rw [escapedMarks_cons_mark, plainMarks, ih]
      · rw [escapedMarks_cons_other mark, plainMarks_cons (Or.inr (head?_escapedMarks text)), ih]

theorem plainMarks_of_no_escape (none : ¬ ['\\', '"'] <:+: text) : plainMarks text = text := by
  induction text with
  | nil => rfl
  | cons character text ih =>
      rw [List.infix_cons_iff, not_or] at none
      rw [plainMarks_cons, ih none.2]
      by_contra both
      simp only [not_or, not_not] at both
      obtain ⟨others, rfl⟩ := List.head?_eq_some_iff.mp both.2
      exact none.1 ⟨others, by rw [both.1]; rfl⟩

/-! ### Words -/

theorem unquoted_quoted {quote : Char} (isQuote : quote = '\'' ∨ quote = '"')
    (text : List Char) : unquoted (quote :: (text ++ [quote])) = text := by
  have closes : (text ++ [quote]).getLast? = some quote := List.getLast?_concat
  have inside : (text ++ [quote]).dropLast = text := List.dropLast_concat
  cases whole : text ++ [quote] with
  | nil => exact absurd whole (List.append_ne_nil_of_right_ne_nil text (List.cons_ne_nil quote []))
  | cons second others =>
      rw [whole] at closes inside
      have quotes : (quote == '\'' || quote == '"') = true := by
        rcases isQuote with rfl | rfl <;> rfl
      rw [unquoted, quotes, closes, inside]
      simp

theorem unquoted_bare (noApostrophe : text.head? ≠ some '\'') (noMark : text.head? ≠ some '"') :
    unquoted text = text := by
  unfold unquoted
  split
  · rename_i first second others
    have noQuote : (first == '\'' || first == '"') = false := by
      rw [Bool.or_eq_false_iff, beq_eq_false_iff_ne, beq_eq_false_iff_ne]
      exact ⟨fun same => noApostrophe (congrArg some same),
        fun same => noMark (congrArg some same)⟩
    rw [noQuote]
    rfl
  · rfl

end

/-! ### Lines -/

/-- What may stand behind a word. -/
def EndsWord (rest : List Char) : Prop :=
  ∀ character ∈ rest.head?, character = ' '

theorem EndsWord.endsBare {word rest : List Char} (ends : EndsWord rest)
    (unescaped : word.getLast? ≠ some '\\') : EndsBare word rest := by
  cases rest with
  | nil => exact Or.inl rfl
  | cons character rest => exact Or.inr ⟨congrArg some (ends character rfl), unescaped⟩

theorem fronts_of_admits {style : Style} {argument : String} (admitted : style.Admits argument)
    {rest : List Char} (ends : EndsWord rest) : Fronts (style.write argument) rest := by
  cases style with
  | marks =>
      apply Fronts.quoted (Or.inr rfl) (escapes_escapedMarks '"' argument.toList)
      rw [getLast?_escapedMarks]
      exact Or.inl admitted.1
  | apostrophes =>
      obtain ⟨unescaped, absent, _noEscape⟩ := admitted
      exact .quoted (Or.inl rfl) (escapes_of_absent absent) (Or.inl unescaped)
  | bare =>
      obtain ⟨unescaped, nonempty, noBlank, noApostrophe, noMark, _noEscape⟩ := admitted
      rw [Style.write]
      cases whole : argument.toList with
      | nil => exact absurd whole nonempty
      | cons first others =>
          rw [whole] at unescaped noBlank noApostrophe noMark
          refine .bare ?_ (escapes_of_absent noBlank) (ends.endsBare unescaped)
          rintro (rfl | rfl)
          · exact absurd rfl noApostrophe
          · exact absurd rfl noMark

/-- The word that an argument is written as is read as this argument. -/
theorem reads_of_admits {style : Style} {argument : String} (admitted : style.Admits argument) :
    plainMarks (unquoted (style.write argument)) = argument.toList := by
  cases style with
  | marks => rw [Style.write, unquoted_quoted (Or.inr rfl), plainMarks_escapedMarks]
  | apostrophes =>
      obtain ⟨_unescaped, _absent, noEscape⟩ := admitted
      rw [Style.write, unquoted_quoted (Or.inl rfl), plainMarks_of_no_escape noEscape]
  | bare =>
      obtain ⟨_unescaped, _nonempty, _noBlank, noApostrophe, noMark, noEscape⟩ := admitted
      rw [Style.write, unquoted_bare noApostrophe noMark, plainMarks_of_no_escape noEscape]

/-- A line is cut into the words that its arguments are written as. -/
theorem exists_cut_of_writes {line : List Char} {arguments : List String}
    (writes : Writes line arguments) :
    ∃ words, Cut line words ∧
      words.map (fun word => plainMarks (unquoted word)) = arguments.map String.toList := by
  induction writes with
  | nothing => exact ⟨[], .nothing, rfl⟩
  | blank _rest ih =>
      obtain ⟨words, cut, reads⟩ := ih
      exact ⟨words, .blank cut, reads⟩
  | @last style argument admitted =>
      refine ⟨[style.write argument], ?_, congrArg (· :: []) (reads_of_admits admitted)⟩
      have cut : Cut (style.write argument ++ []) [style.write argument] :=
        .word (fronts_of_admits admitted nofun) .nothing
      rwa [List.append_nil] at cut
  | @next style argument admitted line arguments _rest ih =>
      obtain ⟨words, cut, reads⟩ := ih
      have ends : EndsWord (' ' :: line) := fun _character first => (Option.some.inj first).symm
      refine ⟨style.write argument :: words, .word (fronts_of_admits admitted ends) (.blank cut), ?_⟩
      rw [List.map_cons, List.map_cons, reads_of_admits admitted, reads]

theorem words_of_writes {line : List Char} {arguments : List String}
    (writes : Writes line arguments) {bound : Nat} (enough : line.length ≤ bound) :
    (rawWordsWithin bound line).map (fun word => plainMarks (unquoted word)) =
      arguments.map String.toList := by
  obtain ⟨words, cut, reads⟩ := exists_cut_of_writes writes
  rw [cut.rawWordsWithin_eq enough, reads]

/-- Splitting undoes writing, whatever the styles and the blanks. -/
theorem splitCommand_of_writes {commandLine : String} {arguments : List String}
    (writes : Writes commandLine.toList arguments) : splitCommand commandLine = arguments := by
  have words := words_of_writes writes (Nat.le_refl _)
  have each := congrArg (List.map String.ofList) words
  rw [List.map_map, List.map_map] at each
  rw [splitCommand, rawWords]
  refine each.trans ?_
  exact (List.map_congr_left fun argument _member => String.ofList_toList).trans (List.map_id _)

/-- Each style, with blanks and quotes inside, backslashes of a path, and an empty argument. -/
theorem splitCommand_of_writes_mixed :
    let commandLine := "\"C:\\My Tools\\cl.exe\"  /IC:\\inc '/DN=a \"b\"' \"\" \"/DM=\\\"hi\\\" \""
    let arguments := ["C:\\My Tools\\cl.exe", "/IC:\\inc", "/DN=a \"b\"", "", "/DM=\"hi\" "]
    Writes commandLine.toList arguments ∧ splitCommand commandLine = arguments := by
  intro commandLine arguments
  have whole : commandLine.toList =
      Style.marks.write "C:\\My Tools\\cl.exe" ++ ' ' :: ' ' ::
        (Style.bare.write "/IC:\\inc" ++ ' ' :: (Style.apostrophes.write "/DN=a \"b\"" ++ ' ' ::
          (Style.marks.write "" ++ ' ' :: Style.marks.write "/DM=\"hi\" "))) := by decide
  have writes : Writes commandLine.toList arguments := by
    rw [whole]
    refine .next .marks (by decide) (.blank (.next .bare (by decide) ?_))
    exact .next .apostrophes (by decide) (.next .marks (by decide) (.last .marks (by decide)))
  exact ⟨writes, splitCommand_of_writes writes⟩

end ListingAtlas.Command
