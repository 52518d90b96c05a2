import Mathlib.Data.Nat.Digits.Defs
import ListingAtlas.Listing.Msvc
import ListingAtlas.Proofs.Listing.Step
import ListingAtlas.Proofs.Text.Trimming

/-!
How directives are written, and what they say. A line directive is read just where its parts can be
told apart, which is possible in one way only, and its number is that of its digits, in whatever
script. A file directive announces one path and names one, and not always the same.
-/

namespace ListingAtlas

namespace Text

/-! ### Numerals -/

/-- A run of digits writes the number that has them, the last digit counting once. -/
theorem numberOf_eq_ofDigits {characters : List Char} {digits : List Nat}
    (written : characters.map digitValue? = digits.map some) :
    numberOf characters = Nat.ofDigits 10 digits.reverse := by
  let append (number digit : Nat) : Nat := 10 * number + digit
  calc numberOf characters
      = (characters.map digitValue?).foldl (fun number digit => append number (digit.getD 0)) 0 :=
        by rw [List.foldl_map, numberOf]
    _ = digits.foldl append 0 := by
        rw [written, List.foldl_map]
        rfl
    _ = digits.reverse.foldr (fun digit number => append number digit) 0 := List.foldr_reverse.symm
    _ = Nat.ofDigits 10 digits.reverse := by
        rw [Nat.ofDigits_eq_foldr]
        congr 1
        funext digit number
        exact Nat.add_comm _ _

theorem isNumeral_of_digits {characters : List Char} {digits : List Nat}
    (nonempty : characters ≠ []) (written : characters.map digitValue? = digits.map some) :
    isNumeral characters = true := by
  have all : characters.all isDigit = true := by
    rw [List.all_eq_true]
    intro character member
    have value := List.mem_map_of_mem (f := digitValue?) member
    rw [written, List.mem_map] at value
    obtain ⟨digit, _among, same⟩ := value
    rw [isDigit, ← same, Option.isSome_some]
  rw [isNumeral, all, Bool.and_true, Bool.not_eq_true', List.isEmpty_eq_false_iff]
  exact nonempty

end Text

namespace Listing.Msvc

open Text

/-! ### Line directives -/

/-- The parts of a line directive: a semicolon, blanks, a token that is a digit and the word
characters behind it, blanks, a colon, and what the line says of the source. -/
structure Directive (line : String) where
  opening : List Char
  first : Char
  more : List Char
  closing : List Char
  echo : List Char
  written : line.toList = ';' :: (opening ++ first :: (more ++ (closing ++ ':' :: echo)))
  opening_ne_nil : opening ≠ []
  openingBlank : opening.all isBlank = true
  firstDigit : isDigit first = true
  moreWord : more.all isWord = true
  closing_ne_nil : closing ≠ []
  closingBlank : closing.all isBlank = true

namespace Directive

variable {line : String}

def token (directive : Directive line) : String :=
  String.ofList (directive.first :: directive.more)

theorem exists_closing (directive : Directive line) :
    ∃ blank blanks, directive.closing = blank :: blanks ∧ isBlank blank = true := by
  obtain ⟨blank, blanks, closing⟩ := List.exists_cons_of_ne_nil directive.closing_ne_nil
  have allBlank := directive.closingBlank
  rw [closing, List.all_cons, Bool.and_eq_true] at allBlank
  exact ⟨blank, blanks, closing, allBlank.1⟩

theorem tokenBeforeColon?_eq (directive : Directive line) :
    tokenBeforeColon? (directive.first :: (directive.more ++
      (directive.closing ++ ':' :: directive.echo))) =
        some (directive.first :: directive.more) := by
  obtain ⟨blank, blanks, closing, isBlank⟩ := directive.exists_closing
  have colon : dropBlanks (directive.closing ++ ':' :: directive.echo) = ':' :: directive.echo :=
    dropWhile_of_stop directive.closingBlank (by decide)
  have notWord := not_isWord_of_isBlank isBlank
  rw [closing, List.cons_append] at colon
  unfold tokenBeforeColon?
  simp only
  rw [if_pos directive.firstDigit, closing, List.cons_append,
    takeWhile_of_stop directive.moreWord notWord, dropWhile_of_stop directive.moreWord notWord,
    colon]
  simp only
  rw [if_pos isBlank]

/-- A line with these parts is read as a directive, by its token. -/
theorem lineToken?_eq (directive : Directive line) : lineToken? line = some directive.token := by
  obtain ⟨blank, blanks, opening⟩ := List.exists_cons_of_ne_nil directive.opening_ne_nil
  have allBlank := directive.openingBlank
  rw [opening, List.all_cons, Bool.and_eq_true] at allBlank
  have dropped (rest : List Char) :
      (blanks ++ directive.first :: rest).dropWhile Text.isBlank = directive.first :: rest :=
    dropWhile_of_stop allBlank.2 (not_isBlank_of_isDigit directive.firstDigit)
  unfold lineToken?
  rw [directive.written, opening, List.cons_append]
  simp only
  rw [if_pos allBlank.1, dropBlanks, dropped, directive.tokenBeforeColon?_eq, Option.map_some,
    token]

/-- The parts of a directive are determined by the line. -/
theorem unique (one other : Directive line) : one = other := by
  have same := one.written.symm.trans other.written
  obtain ⟨opening, behind⟩ := run_unique one.openingBlank (not_isBlank_of_isDigit one.firstDigit)
    other.openingBlank (not_isBlank_of_isDigit other.firstDigit) (List.cons.inj same).2
  obtain ⟨first, behind⟩ := List.cons.inj behind
  obtain ⟨blank, blanks, closes, isBlank⟩ := one.exists_closing
  obtain ⟨blankToo, blanksToo, closesToo, isBlankToo⟩ := other.exists_closing
  rw [closes, closesToo, List.cons_append, List.cons_append] at behind
  obtain ⟨more, behind⟩ := run_unique one.moreWord (not_isWord_of_isBlank isBlank)
    other.moreWord (not_isWord_of_isBlank isBlankToo) behind
  rw [← List.cons_append, ← List.cons_append, ← closes, ← closesToo] at behind
  obtain ⟨closing, behind⟩ := run_unique one.closingBlank (by decide : Text.isBlank ':' = false)
    other.closingBlank (by decide : Text.isBlank ':' = false) behind
  have echo := (List.cons.inj behind).2
  cases one
  cases other
  simp only at opening first more closing echo
  subst opening first more closing echo
  rfl

end Directive

/-- What is read as the token before a colon is one. -/
theorem exists_of_tokenBeforeColon? {characters token : List Char}
    (read : tokenBeforeColon? characters = some token) :
    ∃ first more closing echo, characters = first :: (more ++ (closing ++ ':' :: echo)) ∧
      token = first :: more ∧ isDigit first = true ∧ more.all isWord = true ∧ closing ≠ [] ∧
      closing.all isBlank = true := by
  cases characters with
  | nil => cases read
  | cons first rest =>
      unfold tokenBeforeColon? at read
      simp only at read
      split at read
      · rename_i digit
        split at read
        · rename_i blank behind echo after colon
          split at read
          · rename_i isBlank
            have parts := List.takeWhile_append_dropWhile (p := Text.isBlank)
              (l := rest.dropWhile isWord)
            rw [← dropBlanks, colon] at parts
            refine ⟨first, rest.takeWhile isWord, (rest.dropWhile isWord).takeWhile Text.isBlank,
              echo, ?_, (Option.some.inj read).symm, digit, List.all_takeWhile, ?_,
              List.all_takeWhile⟩
            · rw [parts, List.takeWhile_append_dropWhile]
            · rw [after, List.takeWhile_cons_of_pos isBlank]
              exact List.cons_ne_nil _ _
          · cases read
        · cases read
      · cases read

theorem lineToken?_eq_some_iff {line token : String} :
    lineToken? line = some token ↔ ∃ directive : Directive line, directive.token = token := by
  constructor
  · intro read
    unfold lineToken? at read
    split at read
    · rename_i blank rest whole
      split at read
      · rename_i isBlank
        obtain ⟨characters, found, rfl⟩ := Option.map_eq_some_iff.mp read
        obtain ⟨first, more, closing, echo, parts, rfl, digit, word, some, blanks⟩ :=
          exists_of_tokenBeforeColon? found
        refine ⟨⟨blank :: rest.takeWhile Text.isBlank, first, more, closing, echo, ?_, by simp, ?_,
          digit, word, some, blanks⟩, rfl⟩
        · rw [whole, List.cons_append, ← parts, dropBlanks, List.takeWhile_append_dropWhile]
        · rw [List.all_cons, isBlank, Bool.true_and]
          exact List.all_takeWhile
      · cases read
    · cases read
  · rintro ⟨directive, rfl⟩
    exact directive.lineToken?_eq

theorem token_ne_nil {line token : String} (read : lineToken? line = some token) :
    token.toList ≠ [] := by
  obtain ⟨directive, rfl⟩ := lineToken?_eq_some_iff.mp read
  rw [Directive.token, String.toList_ofList]
  exact List.cons_ne_nil _ _

/-- A line is read as a line directive, by a token, just if it can be written as one with this
token, and it can be written so in one way only. In the target, a directive whose token is made of
digits, and not of too many, makes the line of that number current, if the source has such a line
and it has no block yet, and otherwise no line; nothing else changes. -/
theorem line_directives_read (line token : String) :
    (lineToken? line = some token ↔ ∃ directive : Directive line, directive.token = token) ∧
      (∀ one other : Directive line, one = other) ∧
      ∀ (target : Target) (state : State) (position : Int) (digits : List Nat),
        state.inTarget = true → dialect.classify line = .lineDirective →
        lineToken? line = some token → token.toList.map digitValue? = digits.map some →
        digits.length ≤ Number.digitLimit →
        let number : Nat := Nat.ofDigits 10 digits.reverse
        step dialect target state position line = .ok { state with
          current :=
            if 1 ≤ number ∧ number ≤ target.lineCount ∧ (number : Int) ∉ state.blocks.keys
            then some (number : Int) else none } := by
  refine ⟨lineToken?_eq_some_iff, Directive.unique, ?_⟩
  intro target state position digits inside kind found written short number
  have numeral := isNumeral_of_digits (token_ne_nil found) written
  have sameLength : token.toList.length = digits.length := by
    rw [← List.length_map (f := digitValue?), written, List.length_map]
  have announced : Stepped dialect target line state _ :=
    .announce kind inside token found numeral (sameLength ▸ short)
  rw [numberOf_eq_ofDigits written, announcedLine_eq] at announced
  have counts : 1 ≤ (number : Int) ↔ 1 ≤ number := by omega
  rw [step_of_stepped announced position]
  simp only [number, counts]

/-- Arabic zeros in front, behind a wide blank. -/
theorem line_directives_read_arabic :
    let line := ";\u2003\u0660\u06603\t: int x;"
    let state : State := { State.initial with inTarget := true, current := some 1 }
    let target : Target := { path := "a.c", lineCount := 3 }
    state.inTarget = true ∧ dialect.classify line = .lineDirective ∧
      lineToken? line = some "\u0660\u06603" ∧ [0, 0, 3].length ≤ Number.digitLimit ∧
      step dialect target state 7 line = .ok { state with current := some 3 } := by
  intro line state target
  have kind : dialect.classify line = .lineDirective := by decide +kernel
  have found : lineToken? line = some "\u0660\u06603" := by decide +kernel
  have written : "\u0660\u06603".toList.map digitValue? = [0, 0, 3].map some := by
    decide +kernel
  have short : [0, 0, 3].length ≤ Number.digitLimit := by decide
  have stepped := (line_directives_read line _).2.2 target state 7 [0, 0, 3] rfl kind found
    written short
  exact ⟨rfl, kind, found, short, stepped⟩

/-! ### File directives -/

/-- The line that announces a file by what stands behind the mark. -/
def fileDirective (behind : String) : String :=
  "; File " ++ behind

section

variable (behind : String)

theorem toList_fileDirective :
    (fileDirective behind).toList = filePrefix ++ behind.toList :=
  String.toList_append

/-- The path that it announces is trimmed at both ends. -/
theorem announcedFile?_fileDirective :
    announcedFile? (fileDirective behind) = some (trim behind) := by
  have starts : startsWith filePrefix (fileDirective behind) = true := by
    rw [startsWith, List.isPrefixOf_iff_prefix, toList_fileDirective]
    exact List.prefix_append _ _
  rw [announcedFile?, if_pos starts, toList_fileDirective, List.drop_left, trim]

theorem classify_fileDirective : dialect.classify (fileDirective behind) = .fileDirective := by
  have announced : (dialect.announcedFile? (fileDirective behind)).isSome = true := by
    rw [show dialect.announcedFile? = announcedFile? from rfl, announcedFile?_fileDirective]
    rfl
  rw [Dialect.classify, if_pos announced]

theorem trimChars_fileDirective :
    trimChars (fileDirective behind).toList =
      if dropBlanksEnd behind.toList = [] then "; File".toList
      else filePrefix ++ dropBlanksEnd behind.toList := by
  have front : dropBlanks (filePrefix ++ behind.toList) = filePrefix ++ behind.toList :=
    List.dropWhile_cons_of_neg (by decide)
  have mark : dropBlanksEnd filePrefix = "; File".toList := by decide
  rw [toList_fileDirective, trimChars, front, dropBlanksEnd_append, mark]

/-- The path that it names is trimmed at its end only, and is not empty. -/
theorem namesFile_fileDirective_iff (path : String) :
    namesFile (fileDirective behind) path = true ↔ path = trimEnd behind ∧ path ≠ "" := by
  have empty : path ≠ "" ↔ path.toList ≠ [] := by
    rw [Ne, Ne, ← String.toList_inj, String.toList_empty]
  have trimmed : path = trimEnd behind ↔ path.toList = dropBlanksEnd behind.toList := by
    rw [← String.toList_inj, trimEnd, String.toList_ofList]
  rw [namesFile, beq_iff_eq, trimChars_fileDirective, empty, trimmed]
  split
  · rename_i nothing
    rw [nothing]
    constructor
    · intro same
      have lengths := congrArg List.length same
      have shorter : "; File".toList.length < filePrefix.length := by decide
      rw [List.length_append] at lengths
      omega
    · rintro ⟨same, nonempty⟩
      exact absurd same nonempty
  · rename_i something
    rw [List.append_cancel_left_eq, eq_comm]
    exact ⟨fun same => ⟨same, same ▸ something⟩, And.left⟩

theorem step_fileDirective (target : Target) (state : State) (position : Int) :
    step dialect target state position (fileDirective behind) =
      .ok (if target.path = trimEnd behind ∧ target.path ≠ "" then { state with inTarget := true }
        else { state with inTarget := false, inSegment := false, current := none }) := by
  have kind := classify_fileDirective behind
  split
  · rename_i named
    exact step_of_stepped
      (.enter kind ((namesFile_fileDirective_iff behind target.path).mpr named)) position
  · rename_i unnamed
    rw [← namesFile_fileDirective_iff, Bool.not_eq_true] at unnamed
    exact step_of_stepped (.leave kind unnamed) position

end

/-- A file directive announces what stands behind its mark, trimmed at both ends, but names what
stands there trimmed at its end only, and never nothing; reading the line goes by the name. So the
two agree on every path just if what stands there begins with a character that is no blank. -/
theorem named_as_announced_iff (behind : String) :
    let line := "; File " ++ behind
    announcedFile? line = some (trim behind) ∧
      (∀ path, namesFile line path = true ↔ path = trimEnd behind ∧ path ≠ "") ∧
      (∀ (target : Target) (state : State) (position : Int),
        step dialect target state position line =
          .ok (if target.path = trimEnd behind ∧ target.path ≠ "" then
              { state with inTarget := true }
            else { state with inTarget := false, inSegment := false, current := none })) ∧
      ((∀ path, namesFile line path = true ↔ announcedFile? line = some path) ↔
        ∃ first, behind.toList.head? = some first ∧ isBlank first = false) := by
  intro line
  refine ⟨announcedFile?_fileDirective behind, namesFile_fileDirective_iff behind,
    step_fileDirective behind, ?_⟩
  have agrees (path : String) : (namesFile line path = true ↔ announcedFile? line = some path) ↔
      (path = trimEnd behind ∧ path ≠ "" ↔ path = trim behind) := by
    rw [show line = fileDirective behind from rfl, namesFile_fileDirective_iff,
      announcedFile?_fileDirective, Option.some.injEq, eq_comm (a := trim behind)]
  simp only [agrees]
  constructor
  · intro agree
    -- Of blanks alone nothing is announced, but not named.
    have something : dropBlanksEnd behind.toList ≠ [] := by
      intro nothing
      have announced : "" = trim behind := by
        rw [trim, trimChars_eq_nil nothing]
      exact ((agree "").mpr announced).2 rfl
    have nonempty : trimEnd behind ≠ "" := by
      rw [trimEnd, Ne, ← String.toList_inj, String.toList_ofList]
      exact something
    have same := congrArg String.toList ((agree (trimEnd behind)).mp ⟨rfl, nonempty⟩)
    rw [trimEnd, trim, String.toList_ofList, String.toList_ofList] at same
    have begins := List.head?_eq_some_head something
    exact ⟨_, (head?_dropBlanksEnd something).symm.trans begins,
      not_isBlank_of_trimChars ((congrArg List.head? same).symm.trans begins)⟩
  · rintro ⟨first, begins, ends⟩ path
    obtain ⟨trimmed, something⟩ := trimChars_of_head begins ends
    rw [trim, trimmed, ← trimEnd]
    refine ⟨And.left, fun same => ⟨same, ?_⟩⟩
    rw [same, trimEnd, Ne, ← String.toList_inj, String.toList_ofList]
    exact something

/-- With one more blank in front of its path, a directive announces the path and does not name it,
so that none of the instructions that follow belong to it. -/
theorem padded_path_not_named :
    let line := "; File  a.c"
    let behind := "\n_TEXT\tSEGMENT\n; 1 : int x;\n\tret"
    let target : Target := { path := "a.c", lineCount := 1 }
    announcedFile? line = some "a.c" ∧ namesFile line "a.c" = false ∧
      (blocksOf dialect target (line ++ behind)).toOption.map Table.items = some [] ∧
      (blocksOf dialect target ("; File a.c" ++ behind)).toOption.map Table.items =
        some [(1, ["\tret"])] := by
  intro line behind target
  refine ⟨?_, ?_, ?_, ?_⟩ <;> decide +kernel

end Listing.Msvc

end ListingAtlas
