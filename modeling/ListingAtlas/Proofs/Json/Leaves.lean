import Mathlib.Data.List.Basic
import ListingAtlas.Json.Printer
import ListingAtlas.Json.Reader

/-!
What is written as a whole number or a string is read as that number or string, in front of any text
that does not go on with it. One step of the reader takes one character off a string, however that
is escaped.
-/

namespace ListingAtlas

/-! ### Digits -/

namespace Number

/-- A number of no more digits than are written. -/
def IsShort (number : Int) : Prop :=
  (Nat.toDigits 10 number.natAbs).length ≤ digitLimit

theorem tenTo_pos (exponent : Nat) : 0 < tenTo exponent :=
  Nat.pow_pos (by decide)

theorem length_toDigits_le_iff (number : Nat) {limit : Nat} (positive : 0 < limit) :
    (Nat.toDigits 10 number).length ≤ limit ↔ number < tenTo limit :=
  Nat.length_toDigits_le_iff (by decide) positive

theorem isShort_iff (number : Int) : IsShort number ↔ number.natAbs < tenTo digitLimit :=
  length_toDigits_le_iff number.natAbs (by decide)

theorem isTooLong_eq_false_iff (number : Int) : isTooLong number = false ↔ IsShort number := by
  rw [isTooLong, decide_eq_false_iff_not, Nat.not_le, isShort_iff]

/-- A number above zero is not written with a zero in front. -/
theorem head?_toDigits {number : Nat} (positive : 0 < number) :
    (Nat.toDigits 10 number).head? ≠ some '0' := by
  induction number using Nat.strongRecOn with
  | ind number ih =>
      by_cases single : number < 10
      · rw [Nat.toDigits_of_lt_base single]
        have digits : ∀ digit < 10, 0 < digit → [Nat.digitChar digit].head? ≠ some '0' := by decide
        exact digits number single positive
      · rw [Nat.toDigits_of_base_le (by decide) (Nat.not_lt.mp single),
          List.head?_append_of_ne_nil _ Nat.toDigits_ne_nil]
        exact ih (number / 10) (by omega) (by omega)

end Number

namespace Text

theorem digitValue?_of_isDigit {character : Char} (digit : character.isDigit = true) :
    digitValue? character = some (character.toNat - '0'.toNat) := by
  have bounds := Char.isDigit_iff_toNat.mp digit
  have first : zeros = 0x30 :: zeros.tail := rfl
  rw [digitValue?, first, List.find?_cons_of_pos]
  · rfl
  · rw [Bool.and_eq_true, decide_eq_true_eq, decide_eq_true_eq]
    exact bounds

theorem numberOf_toDigits (number : Nat) : numberOf (Nat.toDigits 10 number) = number := by
  have read : numberOf (Nat.toDigits 10 number) =
      Nat.ofDigitChars 10 (Nat.toDigits 10 number) 0 := by
    apply List.foldl_ext
    intro sum digit member
    have isDigit := Nat.isDigit_of_mem_toDigits (by decide) (by decide) member
    rw [digitValue?_of_isDigit isDigit, Option.getD_some]
  rw [read, Nat.ofDigitChars_toDigits (by decide) (by decide)]

end Text

namespace Json

open Number Text

def scalars (characters : List Char) : Points :=
  characters.map .scalar

@[simp]
theorem scalars_nil : scalars [] = [] := rfl

@[simp]
theorem scalars_cons (character : Char) (characters : List Char) :
    scalars (character :: characters) = .scalar character :: scalars characters := rfl

@[simp]
theorem scalars_append (first second : List Char) :
    scalars (first ++ second) = scalars first ++ scalars second :=
  List.map_append

theorem codePoints_ofString (text : String) :
    (EditorText.ofString text).codePoints = scalars text.toList := rfl

/-! ### Whole numbers -/

/-- A text behind a value: it is empty, or goes on with a comma or a new line. -/
def EndsValue (rest : Points) : Prop :=
  ∀ point ∈ rest.head?, point = .scalar ',' ∨ point = .scalar '\n'

theorem endsValue_newLine (level : Nat) (rest : Points) :
    EndsValue (scalars (newLine level) ++ rest) := by
  intro point first
  rw [newLine, scalars_cons, List.cons_append, List.head?_cons, Option.mem_some_iff] at first
  exact Or.inr first.symm

theorem endsValue_comma (rest : Points) : EndsValue (.scalar ',' :: rest) := by
  intro point first
  rw [List.head?_cons, Option.mem_some_iff] at first
  exact Or.inl first.symm

theorem isAsciiDigit_eq (character : Char) : isAsciiDigit character = character.isDigit := by
  rw [Bool.eq_iff_iff, Char.isDigit_iff_toNat, isAsciiDigit, Bool.and_eq_true, decide_eq_true_eq,
    decide_eq_true_eq]
  exact Iff.rfl

section

variable {rest : Points} (ends : EndsValue rest)

include ends

theorem EndsValue.takeDigits : takeDigits rest = ([], rest) := by
  cases rest with
  | nil => rfl
  | cons point rest =>
      rcases ends point rfl with rfl | rfl
      · rfl
      · rfl

theorem takeDigits_append {digits : List Char}
    (each : ∀ digit ∈ digits, digit.isDigit = true) :
    Json.takeDigits (scalars digits ++ rest) = (digits, rest) := by
  induction digits with
  | nil => exact ends.takeDigits
  | cons digit digits ih =>
      rw [List.forall_mem_cons] at each
      rw [scalars_cons, List.cons_append, Json.takeDigits, isAsciiDigit_eq, if_pos each.1,
        ih each.2]

theorem EndsValue.readFraction : readFraction rest = (none, rest) := by
  cases rest with
  | nil => rfl
  | cons point rest =>
      rcases ends point rfl with rfl | rfl
      · rfl
      · rfl

theorem EndsValue.readPower : readPower rest = (none, rest) := by
  cases rest with
  | nil => rfl
  | cons point rest =>
      rcases ends point rfl with rfl | rfl
      · rfl
      · rfl

theorem readWhole?_toDigits (number : Nat) :
    readWhole? (scalars (Nat.toDigits 10 number) ++ rest) =
      some (Nat.toDigits 10 number, rest) := by
  rcases Nat.eq_zero_or_pos number with rfl | positive
  · rw [Nat.toDigits_zero]
    rfl
  · have digits := takeDigits_append ends fun digit member =>
      Nat.isDigit_of_mem_toDigits (b := 10) (n := number) (by decide) (by decide) member
    have first := head?_toDigits positive
    cases written : Nat.toDigits 10 number with
    | nil => exact absurd written Nat.toDigits_ne_nil
    | cons digit others =>
        rw [written] at digits first
        rw [scalars_cons, List.cons_append] at digits ⊢
        rw [readWhole?]
        · rw [digits]
          rfl
        · intro after same
          cases same
          exact first rfl

theorem readNumber_toDigits (negative : Bool) {number : Nat}
    (short : (Nat.toDigits 10 number).length ≤ digitLimit) :
    readNumber negative (scalars (Nat.toDigits 10 number) ++ rest) =
      .ok (.int (if negative then -(number : Int) else number), rest) := by
  have fits : ¬ digitLimit < (Nat.toDigits 10 number).length := Nat.not_lt.mpr short
  simp only [readNumber, readWhole?_toDigits ends, ends.readFraction, ends.readPower, if_neg fits,
    numberOf_toDigits]

end

/-- The digits of a number, in front of them a minus sign if it is below zero. -/
theorem writeInt_eq (value : Int) :
    writeInt value = signText (value < 0) ++ Nat.toDigits 10 value.natAbs := by
  have digits (number : Nat) : (toString number).toList = Nat.toDigits 10 number := by
    rw [Nat.toString_eq_ofList_toDigits, String.toList_ofList]
  cases value with
  | ofNat number => exact digits number
  | negSucc number =>
      have signed : toString (Int.negSucc number) = "-" ++ toString (number + 1) := rfl
      rw [writeInt, signed, String.toList_append, digits, decide_eq_true (Int.negSucc_lt_zero number)]
      rfl

theorem afterWord?_eq_none {word : String} {first character : Char} {others : List Char}
    (spelled : word.toList = first :: others) (other : first ≠ character) (rest : Points) :
    afterWord? word (.scalar character :: rest) = none := by
  rw [afterWord?, codePoints_ofString, spelled, scalars_cons, if_neg]
  rw [List.isPrefixOf_cons_cons, Bool.and_eq_true, beq_iff_eq, CodePoint.scalar.injEq]
  exact fun same => other same.1

section

variable {digit : Char} (decimal : digit.isDigit = true)

include decimal

theorem ne_of_isDigit {other : Char} (letter : other.isDigit = false) : digit ≠ other := by
  intro same
  rw [← same, decimal] at letter
  cases letter

theorem isSpace_digit : isSpace (.scalar digit) = false := by
  have other {space : Char} (letter : space.isDigit = false) : (digit == space) = false :=
    beq_eq_false_iff_ne.mpr (ne_of_isDigit decimal letter)
  rw [isSpace, other rfl, other rfl, other rfl, other rfl]
  rfl

variable (rest : Points)

/-- No word begins with a digit. -/
theorem afterWord?_digit {word : String} {first : Char} {others : List Char}
    (spelled : word.toList = first :: others) (letter : first.isDigit = false) :
    afterWord? word (.scalar digit :: rest) = none :=
  afterWord?_eq_none spelled (ne_of_isDigit decimal letter).symm rest

theorem readScalar_digit :
    readScalar (.scalar digit :: rest) = readNumber false (.scalar digit :: rest) := by
  have null : afterWord? "null" (.scalar digit :: rest) = none :=
    afterWord?_digit decimal rest rfl rfl
  have yes : afterWord? "true" (.scalar digit :: rest) = none :=
    afterWord?_digit decimal rest rfl rfl
  have no : afterWord? "false" (.scalar digit :: rest) = none :=
    afterWord?_digit decimal rest rfl rfl
  have notANumber : afterWord? "NaN" (.scalar digit :: rest) = none :=
    afterWord?_digit decimal rest rfl rfl
  have infinity : afterWord? "Infinity" (.scalar digit :: rest) = none :=
    afterWord?_digit decimal rest rfl rfl
  rw [readScalar]
  · rw [null, yes, no, notANumber, infinity]
  · intro after same
    cases same
    cases decimal

theorem readScalar_minus_digit :
    readScalar (.scalar '-' :: .scalar digit :: rest) =
      readNumber true (.scalar digit :: rest) := by
  have infinity : afterWord? "Infinity" (.scalar digit :: rest) = none :=
    afterWord?_digit decimal rest rfl rfl
  rw [readScalar, infinity]

end

theorem exists_digit_cons (number : Nat) :
    ∃ digit digits, Nat.toDigits 10 number = digit :: digits ∧ digit.isDigit = true := by
  cases written : Nat.toDigits 10 number with
  | nil => exact absurd written Nat.toDigits_ne_nil
  | cons digit digits =>
      have member : digit ∈ Nat.toDigits 10 number := by
        rw [written]
        exact List.mem_cons_self
      exact ⟨digit, digits, rfl, Nat.isDigit_of_mem_toDigits (by decide) (by decide) member⟩

theorem readScalar_writeInt {value : Int} (short : IsShort value) {rest : Points}
    (ends : EndsValue rest) :
    readScalar (scalars (writeInt value) ++ rest) = .ok (.int value, rest) := by
  have read (negative : Bool) := readNumber_toDigits ends negative short
  obtain ⟨digit, digits, written, decimal⟩ := exists_digit_cons value.natAbs
  rw [written, scalars_cons, List.cons_append] at read
  rw [writeInt_eq, written]
  by_cases below : value < 0
  · have magnitude : -(value.natAbs : Int) = value := by omega
    rw [decide_eq_true below, signText, if_pos rfl]
    change readScalar (.scalar '-' :: .scalar digit :: (scalars digits ++ rest)) = _
    rw [readScalar_minus_digit decimal, read true, if_pos rfl, magnitude]
  · have magnitude : (value.natAbs : Int) = value := by omega
    rw [decide_eq_false below, signText, if_neg Bool.false_ne_true]
    change readScalar (.scalar digit :: (scalars digits ++ rest)) = _
    rw [readScalar_digit decimal, read false, if_neg Bool.false_ne_true, magnitude]

/-! ### Strings -/

theorem readUnit?_hexadecimal {number : Nat} (control : number < 0x20) (rest : Points) :
    readUnit? (scalars (hexadecimal 4 number) ++ rest) = some (number, rest) := by
  have digits : ∀ number < 0x20, hexadecimal 4 number =
      ['0', '0', Nat.digitChar (number / 16), Nat.digitChar (number % 16)] := by
    decide
  have values : ∀ digit < 16, hexDigit? (Nat.digitChar digit) = some digit := by decide
  have zero : hexDigit? '0' = some 0 := rfl
  rw [digits number control]
  simp only [scalars_cons, scalars_nil, List.cons_append, List.nil_append, readUnit?, zero,
    values (number / 16) (by omega), values (number % 16) (by omega), Option.bind_eq_bind,
    Option.bind_some]
  congr
  omega

/-- The outcome of reading a string whose first character has been read. -/
def withFirst (character : Char) (outcome : Read Points) : Read Points :=
  outcome.map fun (points, rest) => (.scalar character :: points, rest)

theorem readString_simpleEscape {escape character : Char}
    (simple : simpleEscape? escape = some character) (bound : Nat) (rest : Points) :
    readString (bound + 1) (.scalar '\\' :: .scalar escape :: rest) =
      withFirst character (readString bound rest) := by
  rw [readString]
  · rw [simple]
    rfl
  · rintro rfl
    cases simple

theorem readString_code {character : Char} (control : character.toNat < 0x20) (bound : Nat)
    (rest : Points) :
    readString (bound + 1)
        (.scalar '\\' :: .scalar 'u' :: (scalars (hexadecimal 4 character.toNat) ++ rest)) =
      withFirst character (readString bound rest) := by
  have high : isHighHalf character.toNat = false := by
    rw [isHighHalf, Bool.and_eq_false_iff, decide_eq_false_iff_not]
    omega
  have low : isLowHalf character.toNat = false := by
    rw [isLowHalf, Bool.and_eq_false_iff, decide_eq_false_iff_not]
    omega
  simp only [readString, readUnit?_hexadecimal control rest, readCodePoint, high, low,
    Bool.false_eq_true, if_false, Char.ofNat_toNat]
  rfl

theorem readString_plain {character : Char} (shown : 0x20 ≤ character.toNat)
    (quote : character ≠ '"') (backslash : character ≠ '\\') (bound : Nat) (rest : Points) :
    readString (bound + 1) (.scalar character :: rest) =
      withFirst character (readString bound rest) := by
  have plain : isPlain (.scalar character) = true := by
    rw [isPlain, Bool.and_eq_true, decide_eq_true_eq, bne_iff_ne]
    exact ⟨shown, backslash⟩
  rw [readString]
  · rw [if_pos plain]
    rfl
  · intro same
    cases same
    exact quote rfl
  · intro after same _code
    cases same
    exact backslash rfl
  · intro escape after same _escape
    cases same
    exact backslash rfl

/-- However a character is escaped, one step of the bound reads it. -/
theorem readString_escapedChar (bound : Nat) (character : Char) (rest : Points) :
    readString (bound + 1) (scalars (escapedChar character) ++ rest) =
      withFirst character (readString bound rest) := by
  unfold escapedChar
  split
  · rename_i marks
    rw [Bool.or_eq_true, beq_iff_eq, beq_iff_eq] at marks
    rcases marks with rfl | rfl
    · exact readString_simpleEscape rfl bound rest
    · exact readString_simpleEscape rfl bound rest
  rename_i marks
  rw [Bool.or_eq_true, beq_iff_eq, beq_iff_eq, not_or] at marks
  iterate 5
    split
    · rename_i same
      rw [eq_of_beq same]
      exact readString_simpleEscape rfl bound rest
  split
  · rename_i control
    exact readString_code control bound rest
  · rename_i shown
    exact readString_plain (Nat.not_lt.mp shown) marks.1 marks.2 bound rest

theorem readString_write (characters : List Char) (rest : Points) {bound : Nat}
    (within : characters.length < bound) :
    readString bound (scalars (characters.flatMap escapedChar ++ ['"']) ++ rest) =
      .ok (scalars characters, rest) := by
  induction characters generalizing bound with
  | nil =>
      obtain ⟨bound, rfl⟩ := Nat.exists_eq_add_one.mpr within
      rfl
  | cons character characters ih =>
      obtain ⟨bound, rfl⟩ := Nat.exists_eq_add_one_of_ne_zero (Nat.ne_zero_of_lt within)
      rw [List.length_cons, Nat.add_lt_add_iff_right] at within
      rw [List.flatMap_cons, List.append_assoc, scalars_append, List.append_assoc,
        readString_escapedChar, ih within]
      rfl

theorem length_lt_writeString (text : String) : text.toList.length < (writeString text).length := by
  have escaped (characters : List Char) :
      characters.length ≤ (characters.flatMap escapedChar).length := by
    induction characters with
    | nil => exact Nat.le_refl 0
    | cons character characters ih =>
        have some : escapedChar character ≠ [] := by
          unfold escapedChar
          split_ifs <;> exact List.cons_ne_nil _ _
        have least := List.length_pos_of_ne_nil some
        rw [List.length_cons, List.flatMap_cons, List.length_append]
        omega
  have inside := escaped text.toList
  rw [writeString, List.length_cons, List.length_append]
  omega

/-- A string behind its opening mark. -/
theorem readString_writeString (text : String) (rest : Points) {bound : Nat}
    (within : (writeString text).length ≤ bound) :
    ∃ points, scalars (writeString text) ++ rest = .scalar '"' :: points ∧
      readString bound points = .ok ((EditorText.ofString text).codePoints, rest) := by
  refine ⟨_, rfl, ?_⟩
  exact readString_write text.toList rest (Nat.lt_of_lt_of_le (length_lt_writeString text) within)

end Json

end ListingAtlas
