import Mathlib.Data.List.Infix
import ListingAtlas.Command.Words

/-!
How a command line is cut into words. A quoted word ends at the first quote of its kind without a
backslash in front of it, or at the last one of all if each has a backslash; a bare word ends at the
first such blank. A quote that nothing closes begins a bare word. Only blanks are left between the
words, so nothing else of the line is lost.
-/

namespace ListingAtlas.Command

/-! ### Escaped marks -/

/-- Each mark of a kind in a text has a backslash right before it; the first character of the text
stands behind another one. -/
def Escapes (mark before : Char) (text : List Char) : Prop :=
  ∀ front rest, text = front ++ mark :: rest → (before :: front).getLast? = some '\\'

section

variable {mark before : Char} {text : List Char}

theorem escapes_nil : Escapes mark before [] := by
  intro front rest whole
  cases front <;> cases whole

theorem escapes_cons {character : Char} :
    Escapes mark before (character :: text) ↔
      (character = mark → before = '\\') ∧ Escapes mark character text := by
  constructor
  · intro escaped
    constructor
    · intro same
      have first := escaped [] text (by rw [same]; rfl)
      exact Option.some.inj first
    · intro front rest whole
      have later := escaped (character :: front) rest (by rw [whole]; rfl)
      rwa [List.getLast?_cons_cons] at later
  · intro both front rest whole
    cases front with
    | nil =>
        have same : character = mark := (List.cons.inj whole).1
        rw [both.1 same]
        rfl
    | cons other front =>
        obtain ⟨same, behind⟩ := List.cons.inj whole
        rw [List.getLast?_cons_cons, ← same]
        exact both.2 front rest behind

theorem escapes_of_absent (absent : mark ∉ text) : Escapes mark before text := by
  intro front rest whole
  apply absurd _ absent
  rw [whole]
  exact List.mem_append_right front List.mem_cons_self

/-- Where no backslash stands before it, a text does not begin with a mark, whatever stands there. -/
theorem Escapes.behind (escaped : Escapes mark before text) (plain : before ≠ '\\')
    (other : Char) : Escapes mark other text := by
  cases text with
  | nil => exact escapes_nil
  | cons character text =>
      rw [escapes_cons] at escaped ⊢
      exact ⟨fun same => absurd (escaped.1 same) plain, escaped.2⟩

theorem Escapes.of_append {more : List Char} (escaped : Escapes mark before (text ++ more)) :
    Escapes mark before text := by
  intro front rest whole
  apply escaped front (rest ++ more)
  rw [whole, List.append_assoc, List.cons_append]

/-- One more mark behind a backslash, and then none. -/
theorem escapes_append_mark {rest : List Char} (escaped : Escapes mark before text)
    (last : (before :: text).getLast? = some '\\') (absent : mark ∉ rest) :
    Escapes mark before (text ++ mark :: rest) := by
  induction text generalizing before with
  | nil =>
      rw [List.nil_append, escapes_cons]
      exact ⟨fun _same => Option.some.inj last, escapes_of_absent absent⟩
  | cons character text ih =>
      rw [escapes_cons] at escaped
      rw [List.cons_append, escapes_cons]
      rw [List.getLast?_cons_cons] at last
      exact ⟨escaped.1, ih escaped.2 last⟩

theorem getLast?_behind_iff (plain : before ≠ '\\') :
    (before :: text).getLast? = some '\\' ↔ text.getLast? = some '\\' := by
  cases text with
  | nil => exact ⟨fun same => absurd (Option.some.inj same) plain, nofun⟩
  | cons character text => rw [List.getLast?_cons_cons]

/-- A text in which marks are escaped ends where one stands that is not. -/
theorem Escapes.length_le {other rest more : List Char} (escaped : Escapes mark before text)
    (unescaped : (before :: other).getLast? ≠ some '\\')
    (same : text ++ rest = other ++ mark :: more) : text.length ≤ other.length := by
  by_contra longer
  have front : other <+: text := by
    apply List.prefix_of_prefix_length_le (List.prefix_append other (mark :: more))
    · rw [← same]
      exact List.prefix_append text rest
    · omega
  obtain ⟨behind, whole⟩ := front
  cases behind with
  | nil =>
      rw [List.append_nil] at whole
      rw [whole] at longer
      omega
  | cons character behind =>
      rw [← whole, List.append_assoc, List.append_cancel_left_eq] at same
      have marked : character = mark := (List.cons.inj same).1
      apply unescaped
      apply escaped other behind
      rw [← whole, marked]

end

/-! ### Quoted words -/

section

variable {quote before : Char} {text taken after : List Char}

theorem throughFirstQuote?_cons (character : Char) (text : List Char) :
    throughFirstQuote? quote before (character :: text) =
      if character = quote ∧ before ≠ '\\' then some ([character], text)
      else (throughFirstQuote? quote character text).map fun found =>
        (character :: found.1, found.2) := by
  simp only [throughFirstQuote?, Bool.and_eq_true, beq_iff_eq, bne_iff_ne]

/-- No quote closes a word just if each of them is escaped. -/
theorem throughFirstQuote?_eq_none_iff :
    throughFirstQuote? quote before text = none ↔ Escapes quote before text := by
  induction text generalizing before with
  | nil => exact ⟨fun _none => escapes_nil, fun _escaped => rfl⟩
  | cons character text ih =>
      rw [throughFirstQuote?_cons, escapes_cons, ← ih]
      split
      · rename_i closes
        constructor
        · exact nofun
        · intro both
          exact absurd (both.1 closes.1) closes.2
      · rename_i passes
        rw [Option.map_eq_none_iff]
        constructor
        · intro none
          refine ⟨fun same => ?_, none⟩
          by_contra plain
          exact passes ⟨same, plain⟩
        · exact And.right

theorem of_throughFirstQuote? (found : throughFirstQuote? quote before text = some (taken, after)) :
    ∃ inside, taken = inside ++ [quote] ∧ text = inside ++ quote :: after ∧
      Escapes quote before inside ∧ (before :: inside).getLast? ≠ some '\\' := by
  induction text generalizing before taken with
  | nil => cases found
  | cons character text ih =>
      rw [throughFirstQuote?_cons] at found
      split at found
      · rename_i closes
        obtain ⟨rfl, rfl⟩ := Prod.mk.inj (Option.some.inj found)
        refine ⟨[], by rw [closes.1]; rfl, by rw [closes.1]; rfl, escapes_nil, ?_⟩
        exact fun same => closes.2 (Option.some.inj same)
      · rename_i passes
        obtain ⟨⟨others, behind⟩, later, whole⟩ := Option.map_eq_some_iff.mp found
        obtain ⟨rfl, rfl⟩ := Prod.mk.inj whole
        obtain ⟨inside, rfl, rfl, escaped, unescaped⟩ := ih later
        refine ⟨character :: inside, rfl, rfl, escapes_cons.mpr ⟨?_, escaped⟩, unescaped⟩
        intro same
        by_contra plain
        exact passes ⟨same, plain⟩

theorem throughFirstQuote?_eq_some_iff :
    throughFirstQuote? quote before text = some (taken, after) ↔
      ∃ inside, taken = inside ++ [quote] ∧ text = inside ++ quote :: after ∧
        Escapes quote before inside ∧ (before :: inside).getLast? ≠ some '\\' := by
  constructor
  · exact of_throughFirstQuote?
  · rintro ⟨inside, rfl, rfl, escaped, unescaped⟩
    cases found : throughFirstQuote? quote before (inside ++ quote :: after) with
    | none =>
        rw [throughFirstQuote?_eq_none_iff] at found
        exact absurd (found inside after rfl) unescaped
    | some result =>
        obtain ⟨other, taken, same, otherEscaped, otherUnescaped⟩ := of_throughFirstQuote? found
        -- Each of the two ends where a quote of the other one would not be escaped.
        have most := escaped.length_le otherUnescaped same
        have least := otherEscaped.length_le unescaped same.symm
        obtain ⟨inner, behind⟩ := List.append_inj same (by omega)
        rw [Option.some.injEq, Prod.ext_iff, taken, inner]
        exact ⟨rfl, ((List.cons.inj behind).2).symm⟩

theorem throughLastQuote?_eq_none_iff : throughLastQuote? quote text = none ↔ quote ∉ text := by
  induction text with
  | nil => exact ⟨fun _none => List.not_mem_nil, fun _absent => rfl⟩
  | cons character text ih =>
      rw [throughLastQuote?, List.mem_cons, not_or, ← ih, eq_comm (a := quote)]
      cases throughLastQuote? quote text with
      | none => simp
      | some found => simp

theorem throughLastQuote?_eq_some_iff :
    throughLastQuote? quote text = some (taken, after) ↔
      ∃ inside, taken = inside ++ [quote] ∧ text = inside ++ quote :: after ∧ quote ∉ after := by
  constructor
  · intro found
    induction text generalizing taken with
    | nil => cases found
    | cons character text ih =>
        rw [throughLastQuote?] at found
        cases later : throughLastQuote? quote text with
        | some result =>
            rw [later] at found
            obtain ⟨rfl, rfl⟩ := Prod.mk.inj (Option.some.inj found)
            obtain ⟨inside, rest, rfl, absent⟩ := ih later
            exact ⟨character :: inside, by rw [rest]; rfl, rfl, absent⟩
        | none =>
            rw [later] at found
            simp only [beq_iff_eq, Option.ite_none_right_eq_some, Option.some.injEq,
              Prod.mk.injEq] at found
            obtain ⟨rfl, rfl, rfl⟩ := found
            exact ⟨[], rfl, rfl, throughLastQuote?_eq_none_iff.mp later⟩
  · rintro ⟨inside, rfl, rfl, absent⟩
    induction inside with
    | nil =>
        rw [List.nil_append, throughLastQuote?, throughLastQuote?_eq_none_iff.mpr absent]
        simp
    | cons character inside ih =>
        rw [List.cons_append, throughLastQuote?, ih]
        rfl

end

/-! ### Bare words -/

/-- What may stand behind a bare word. -/
def EndsBare (word rest : List Char) : Prop :=
  rest = [] ∨ (rest.head? = some ' ' ∧ word.getLast? ≠ some '\\')

section

variable {text word after : List Char}

theorem bareWord_append (text : List Char) : (bareWord text).1 ++ (bareWord text).2 = text := by
  fun_induction bareWord text with
  | case1 => rfl
  | case2 rest taken after split ih =>
      rw [split] at ih
      rw [List.cons_append, List.cons_append, ih]
  | case3 rest => rfl
  | case4 character rest noEscape nonblank taken after split ih =>
      rw [split] at ih
      rw [List.cons_append, ih]

theorem escapes_bareWord (text : List Char) : Escapes ' ' ' ' (bareWord text).1 := by
  fun_induction bareWord text with
  | case1 => exact escapes_nil
  | case2 rest taken after split ih =>
      rw [split] at ih
      rw [escapes_cons, escapes_cons]
      exact ⟨nofun, fun _blank => rfl, ih⟩
  | case3 rest => exact escapes_nil
  | case4 character rest noEscape nonblank taken after split ih =>
      rw [split] at ih
      rw [escapes_cons]
      exact ⟨fun same => absurd same nonblank, ih.behind (by decide) character⟩

theorem endsBare_bareWord (text : List Char) : EndsBare (bareWord text).1 (bareWord text).2 := by
  fun_induction bareWord text with
  | case1 => exact Or.inl rfl
  | case2 rest taken after split ih =>
      rw [split] at ih
      apply ih.imp_right
      intro ends
      refine ⟨ends.1, ?_⟩
      rw [List.getLast?_cons_cons]
      exact (getLast?_behind_iff (by decide)).not.mpr ends.2
  | case3 rest => exact Or.inr ⟨rfl, nofun⟩
  | case4 character rest noEscape nonblank taken after split ih =>
      have whole := bareWord_append rest
      rw [split] at ih whole
      apply ih.imp_right
      intro ends
      refine ⟨ends.1, ?_⟩
      cases taken with
      | nil =>
          -- The blank right behind a backslash would have been taken.
          obtain ⟨others, same⟩ := List.head?_eq_some_iff.mp ends.1
          intro escape
          apply noEscape others (Option.some.inj escape)
          exact whole.symm.trans same
      | cons second taken => exact ends.2

/-- A bare word goes as far as one can. -/
theorem EndsBare.length_le {other rest : List Char} (ends : EndsBare word after)
    (escaped : Escapes ' ' ' ' other) (same : other ++ rest = word ++ after) :
    other.length ≤ word.length := by
  rcases ends with nothing | ⟨blank, unescaped⟩
  · have lengths := congrArg List.length same
    rw [nothing, List.append_nil, List.length_append] at lengths
    omega
  · obtain ⟨more, behind⟩ := List.head?_eq_some_iff.mp blank
    rw [behind] at same
    exact escaped.length_le ((getLast?_behind_iff (by decide)).not.mpr unescaped) same

theorem bareWord_eq_iff :
    bareWord text = (word, after) ↔
      text = word ++ after ∧ Escapes ' ' ' ' word ∧ EndsBare word after := by
  constructor
  · intro found
    have whole := bareWord_append text
    have escaped := escapes_bareWord text
    have ends := endsBare_bareWord text
    rw [found] at whole escaped ends
    exact ⟨whole.symm, escaped, ends⟩
  · rintro ⟨whole, escaped, ends⟩
    have same : (bareWord text).1 ++ (bareWord text).2 = word ++ after :=
      (bareWord_append text).trans whole
    have most := ends.length_le (escapes_bareWord text) same
    have least := (endsBare_bareWord text).length_le escaped same.symm
    obtain ⟨word, after⟩ := List.append_inj same (by omega)
    exact Prod.ext word after

end

/-! ### The first word of a line -/

def IsQuote (character : Char) : Prop :=
  character = '\'' ∨ character = '"'

instance (character : Char) : Decidable (IsQuote character) :=
  inferInstanceAs (Decidable (_ ∨ _))

theorem isQuote_eq (character : Char) :
    (character == '\'' || character == '"') = decide (IsQuote character) := by
  rw [Bool.eq_iff_iff, Bool.or_eq_true, beq_iff_eq, beq_iff_eq, decide_eq_true_eq, IsQuote]

theorem IsQuote.ne_escape {quote : Char} (isQuote : IsQuote quote) : quote ≠ '\\' := by
  rcases isQuote with rfl | rfl
  · decide
  · decide

/-- A word at the front of a line, and the rest of the line. A quoted word holds quotes of its kind
only behind backslashes, and the quote that closes it follows one only if no other is left. A bare
word holds blanks only behind backslashes, and begins with a quote only if this is the last one. -/
inductive Fronts : List Char → List Char → Prop
  | quoted {quote : Char} {inside rest : List Char} (isQuote : IsQuote quote)
      (escaped : Escapes quote quote inside)
      (closes : inside.getLast? ≠ some '\\' ∨ quote ∉ rest) :
      Fronts (quote :: (inside ++ [quote])) rest
  | bare {first : Char} {others rest : List Char} (unclosed : IsQuote first → first ∉ others ++ rest)
      (escaped : Escapes ' ' ' ' (first :: others)) (ends : EndsBare (first :: others) rest) :
      Fronts (first :: others) rest

section

variable {first quote : Char} {rest word after : List Char}

theorem firstWord_of_quoted {taken : List Char} (isQuote : IsQuote quote)
    (closes : quotedWord? quote rest = some (taken, after)) :
    firstWord quote rest = (quote :: taken, after) := by
  rw [firstWord, isQuote_eq, decide_eq_true isQuote, if_pos rfl, closes]

theorem quotedWord?_eq_none_iff : quotedWord? quote rest = none ↔ quote ∉ rest := by
  rw [quotedWord?]
  constructor
  · intro none
    split at none
    · cases none
    · exact throughLastQuote?_eq_none_iff.mp none
  · intro absent
    rw [throughFirstQuote?_eq_none_iff.mpr (escapes_of_absent absent)]
    exact throughLastQuote?_eq_none_iff.mpr absent

theorem quotedWord?_eq_some_iff {taken : List Char} (isQuote : IsQuote quote) :
    quotedWord? quote rest = some (taken, after) ↔
      ∃ inside, taken = inside ++ [quote] ∧ rest = inside ++ quote :: after ∧
        Escapes quote quote inside ∧ (inside.getLast? ≠ some '\\' ∨ quote ∉ after) := by
  have last (text : List Char) : (quote :: text).getLast? = some '\\' ↔
      text.getLast? = some '\\' := getLast?_behind_iff isQuote.ne_escape
  rw [quotedWord?]
  constructor
  · intro found
    split at found
    · rename_i result first
      rw [Option.some.inj found] at first
      obtain ⟨inside, taken, whole, escaped, unescaped⟩ := throughFirstQuote?_eq_some_iff.mp first
      exact ⟨inside, taken, whole, escaped, Or.inl ((last inside).not.mp unescaped)⟩
    · rename_i none
      rw [throughFirstQuote?_eq_none_iff] at none
      obtain ⟨inside, taken, whole, absent⟩ := throughLastQuote?_eq_some_iff.mp found
      rw [whole] at none
      exact ⟨inside, taken, whole, none.of_append, Or.inr absent⟩
  · rintro ⟨inside, taken, whole, escaped, closes⟩
    by_cases escape : inside.getLast? = some '\\'
    · have absent : quote ∉ after := closes.resolve_left fun other => other escape
      have none : throughFirstQuote? quote quote rest = none := by
        rw [throughFirstQuote?_eq_none_iff, whole]
        exact escapes_append_mark escaped ((last inside).mpr escape) absent
      rw [none]
      exact throughLastQuote?_eq_some_iff.mpr ⟨inside, taken, whole, absent⟩
    · have unescaped := (last inside).not.mpr escape
      rw [throughFirstQuote?_eq_some_iff.mpr ⟨inside, taken, whole, escaped, unescaped⟩]

theorem firstWord_of_unclosed (unclosed : IsQuote first → first ∉ rest) :
    firstWord first rest = bareWord (first :: rest) := by
  rw [firstWord, isQuote_eq]
  by_cases isQuote : IsQuote first
  · rw [decide_eq_true isQuote, if_pos rfl, quotedWord?_eq_none_iff.mpr (unclosed isQuote)]
  · rw [decide_eq_false isQuote, if_neg Bool.false_ne_true]

theorem Fronts.begins (fronts : Fronts word rest) :
    ∃ first others, word = first :: others ∧ first ≠ ' ' := by
  cases fronts with
  | @quoted quote inside rest isQuote _escaped _closes =>
      refine ⟨quote, inside ++ [quote], rfl, ?_⟩
      rcases isQuote with rfl | rfl
      · decide
      · decide
  | @bare first others rest _unclosed escaped _ends =>
      refine ⟨first, others, rfl, ?_⟩
      intro blank
      have escape := (escapes_cons.mp escaped).1 blank
      exact absurd escape (by decide)

theorem fronts_bareWord (unclosed : IsQuote first → first ∉ rest) (nonblank : first ≠ ' ')
    (found : bareWord (first :: rest) = (word, after)) :
    Fronts word after ∧ first :: rest = word ++ after := by
  obtain ⟨whole, escaped, ends⟩ := bareWord_eq_iff.mp found
  refine ⟨?_, whole⟩
  cases word with
  | nil =>
      rcases ends with nothing | ⟨blank, _plain⟩
      · rw [nothing] at whole
        cases whole
      · rw [List.nil_append] at whole
        rw [← whole] at blank
        exact absurd (Option.some.inj blank) nonblank
  | cons other others =>
      obtain ⟨same, behind⟩ := List.cons.inj whole
      rw [same, behind] at unclosed
      exact .bare unclosed escaped ends

/-- The word that is found at the front of a line is the only one there. -/
theorem firstWord_eq_iff (nonblank : first ≠ ' ') :
    firstWord first rest = (word, after) ↔ Fronts word after ∧ first :: rest = word ++ after := by
  constructor
  · intro found
    by_cases closed : IsQuote first ∧ first ∈ rest
    · have some : quotedWord? first rest ≠ none :=
        fun none => quotedWord?_eq_none_iff.mp none closed.2
      obtain ⟨⟨taken, behind⟩, closes⟩ := Option.ne_none_iff_exists'.mp some
      rw [firstWord_of_quoted closed.1 closes] at found
      obtain ⟨rfl, rfl⟩ := Prod.mk.inj found
      obtain ⟨inside, rfl, rfl, escaped, last⟩ := (quotedWord?_eq_some_iff closed.1).mp closes
      rw [List.cons_append, List.append_assoc]
      exact ⟨.quoted closed.1 escaped last, rfl⟩
    · have unclosed : IsQuote first → first ∉ rest := fun quote member => closed ⟨quote, member⟩
      rw [firstWord_of_unclosed unclosed] at found
      exact fronts_bareWord unclosed nonblank found
  · rintro ⟨fronts, whole⟩
    cases fronts with
    | @quoted quote inside after isQuote escaped closes =>
        rw [List.cons_append, List.append_assoc] at whole
        obtain ⟨rfl, behind⟩ := List.cons.inj whole
        apply firstWord_of_quoted isQuote
        rw [quotedWord?_eq_some_iff isQuote]
        exact ⟨inside, rfl, behind, escaped, closes⟩
    | @bare other others after unclosed escaped ends =>
        rw [List.cons_append] at whole
        obtain ⟨rfl, rfl⟩ := List.cons.inj whole
        rw [firstWord_of_unclosed unclosed, bareWord_eq_iff]
        exact ⟨rfl, escaped, ends⟩

end

/-! ### All words of a line -/

/-- A line cut into words, with nothing but blanks around them. -/
inductive Cut : List Char → List (List Char) → Prop
  | nothing : Cut [] []
  | blank {line : List Char} {words : List (List Char)} (rest : Cut line words) :
      Cut (' ' :: line) words
  | word {word line : List Char} {words : List (List Char)} (fronts : Fronts word line)
      (rest : Cut line words) : Cut (word ++ line) (word :: words)

section

variable {line : List Char} {words : List (List Char)}

theorem rawWordsWithin_nil (bound : Nat) : rawWordsWithin bound [] = [] := by
  cases bound <;> rfl

theorem rawWordsWithin_word {first : Char} (nonblank : first ≠ ' ') (rest : List Char)
    (bound : Nat) :
    rawWordsWithin (bound + 1) (first :: rest) =
      (firstWord first rest).1 :: rawWordsWithin bound (firstWord first rest).2 := by
  rw [rawWordsWithin]
  exact nonblank

theorem cut_rawWordsWithin {bound : Nat} (enough : line.length ≤ bound) :
    Cut line (rawWordsWithin bound line) := by
  induction bound generalizing line with
  | zero =>
      rw [List.eq_nil_of_length_eq_zero (Nat.le_zero.mp enough)]
      exact .nothing
  | succ bound ih =>
      cases line with
      | nil => exact .nothing
      | cons first rest =>
          rw [List.length_cons] at enough
          by_cases blank : first = ' '
          · rw [blank, rawWordsWithin]
            exact .blank (ih (by omega))
          · obtain ⟨fronts, whole⟩ := (firstWord_eq_iff blank).mp
              (rfl : firstWord first rest = ((firstWord first rest).1, (firstWord first rest).2))
            obtain ⟨_first, others, word, _nonblank⟩ := fronts.begins
            have lengths := congrArg List.length whole
            rw [word, List.length_cons, List.length_append, List.length_cons] at lengths
            rw [rawWordsWithin_word blank, whole]
            exact .word fronts (ih (by omega))

theorem Cut.rawWordsWithin_eq (cut : Cut line words) {bound : Nat} (enough : line.length ≤ bound) :
    rawWordsWithin bound line = words := by
  induction cut generalizing bound with
  | nothing => exact rawWordsWithin_nil bound
  | @blank line words rest ih =>
      rw [List.length_cons] at enough
      obtain ⟨left, rfl⟩ : ∃ left, bound = left + 1 := ⟨bound - 1, by omega⟩
      rw [rawWordsWithin]
      exact ih (by omega)
  | @word word line words fronts rest ih =>
      obtain ⟨first, others, whole, nonblank⟩ := fronts.begins
      rw [whole, List.cons_append, List.length_cons, List.length_append] at enough
      obtain ⟨left, rfl⟩ : ∃ left, bound = left + 1 := ⟨bound - 1, by omega⟩
      have found : firstWord first (others ++ line) = (word, line) := by
        rw [firstWord_eq_iff nonblank, whole]
        exact ⟨whole ▸ fronts, rfl⟩
      rw [whole, List.cons_append, rawWordsWithin_word nonblank, found, ih (by omega), whole]

/-- A line is cut into its words, and in no other way. -/
theorem rawWords_eq_iff : rawWords line = words ↔ Cut line words := by
  constructor
  · intro same
    rw [← same]
    exact cut_rawWordsWithin (Nat.le_refl _)
  · intro cut
    exact cut.rawWordsWithin_eq (Nat.le_refl _)

/-- The blanks before each word, and those behind the last one. -/
theorem Cut.exists_gaps (cut : Cut line words) :
    ∃ gaps last, gaps.length = words.length ∧
      (∀ gap ∈ last :: gaps, ∀ character ∈ gap, character = ' ') ∧
      line = (List.zipWith (· ++ ·) gaps words).flatten ++ last := by
  induction cut with
  | nothing => exact ⟨[], [], rfl, by simp, rfl⟩
  | @blank line words rest ih =>
      obtain ⟨gaps, last, many, blanks, whole⟩ := ih
      rw [List.forall_mem_cons] at blanks
      cases gaps with
      | nil =>
          refine ⟨[], ' ' :: last, many, ?_, by rw [whole]; rfl⟩
          rw [List.forall_mem_cons, List.forall_mem_cons]
          exact ⟨⟨rfl, blanks.1⟩, nofun⟩
      | cons gap gaps =>
          rw [List.forall_mem_cons] at blanks
          cases words with
          | nil => cases many
          | cons word words =>
              refine ⟨(' ' :: gap) :: gaps, last, many, ?_, by rw [whole]; rfl⟩
              rw [List.forall_mem_cons, List.forall_mem_cons, List.forall_mem_cons]
              exact ⟨blanks.1, ⟨rfl, blanks.2.1⟩, blanks.2.2⟩
  | @word word line words _fronts rest ih =>
      obtain ⟨gaps, last, many, blanks, whole⟩ := ih
      rw [List.forall_mem_cons] at blanks
      refine ⟨[] :: gaps, last, congrArg Nat.succ many, ?_, ?_⟩
      · rw [List.forall_mem_cons, List.forall_mem_cons]
        exact ⟨blanks.1, nofun, blanks.2⟩
      · rw [whole, List.zipWith_cons_cons, List.flatten_cons, List.nil_append, List.append_assoc]

theorem Cut.exists_fronts (cut : Cut line words) : ∀ word ∈ words, ∃ rest, Fronts word rest := by
  induction cut with
  | nothing => exact nofun
  | blank rest ih => exact ih
  | @word word line words fronts rest ih => exact List.forall_mem_cons.mpr ⟨⟨line, fronts⟩, ih⟩

theorem Cut.eq_nil_iff (cut : Cut line words) :
    words = [] ↔ ∀ character ∈ line, character = ' ' := by
  induction cut with
  | nothing => simp
  | blank rest ih => simp [ih]
  | @word word line words fronts rest ih =>
      obtain ⟨first, others, rfl, nonblank⟩ := fronts.begins
      constructor
      · exact nofun
      · intro blanks
        exact absurd (blanks first List.mem_cons_self) nonblank

end

/-- A blank in a word stands between quotes, or has a backslash right before it. -/
theorem Fronts.spaces {word rest : List Char} (fronts : Fronts word rest) :
    (∃ quote inside, (quote = '\'' ∨ quote = '"') ∧ word = quote :: (inside ++ [quote])) ∨
      ∀ front rest, word = front ++ ' ' :: rest → front.getLast? = some '\\' := by
  cases fronts with
  | @quoted quote inside rest isQuote _escaped _closes =>
      exact Or.inl ⟨quote, inside, isQuote, rfl⟩
  | @bare first others rest _unclosed escaped _ends =>
      refine Or.inr fun front more whole => ?_
      exact (getLast?_behind_iff (by decide)).mp (escaped front more whole)

/-- Splitting a command line cuts it in the one way there is, whatever quotes and backslashes it
holds. Words are not empty and come one behind the other, with blanks alone around them; a blank in a
word stands between quotes or behind a backslash. Each word gives one argument, so that there is
none just if the line is blank. -/
theorem splitCommand_loses_only_blanks (line : String) :
    (∀ words, Cut line.toList words ↔ words = rawWords line.toList) ∧
      (∃ gaps last, gaps.length = (rawWords line.toList).length ∧
        (∀ gap ∈ last :: gaps, ∀ character ∈ gap, character = ' ') ∧
        line.toList = (List.zipWith (· ++ ·) gaps (rawWords line.toList)).flatten ++ last) ∧
      (∀ word ∈ rawWords line.toList, word ≠ [] ∧
        ((∃ quote inside, (quote = '\'' ∨ quote = '"') ∧ word = quote :: (inside ++ [quote])) ∨
          ∀ front rest, word = front ++ ' ' :: rest → front.getLast? = some '\\')) ∧
      (splitCommand line).length = (rawWords line.toList).length ∧
      (splitCommand line = [] ↔ ∀ character ∈ line.toList, character = ' ') := by
  have cut : Cut line.toList (rawWords line.toList) := rawWords_eq_iff.mp rfl
  refine ⟨?_, cut.exists_gaps, ?_, ?_, ?_⟩
  · intro words
    rw [← rawWords_eq_iff, eq_comm]
  · intro word member
    obtain ⟨rest, fronts⟩ := cut.exists_fronts word member
    obtain ⟨first, others, whole, _nonblank⟩ := fronts.begins
    refine ⟨?_, fronts.spaces⟩
    rw [whole]
    exact List.cons_ne_nil first others
  · exact List.length_map _
  · rw [splitCommand, List.map_eq_nil_iff]
    exact cut.eq_nil_iff

/-- An apostrophe that nothing closes, a mark that only an escaped one closes, an escaped blank. -/
example : rawWords "'a  \"b c\\\" d\\ e".toList =
    ["'a".toList, "\"b c\\\"".toList, "d\\ e".toList] := by decide

end ListingAtlas.Command
