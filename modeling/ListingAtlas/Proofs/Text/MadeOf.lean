import ListingAtlas.Proofs.Text.Lines

/-!
What kind of characters texts are made of. A kind is kept where texts are put one behind the other,
joined, broken into lines, and where a number is written whose digits are of the kind.
-/

namespace ListingAtlas

/-- Every character of a text is of a kind. -/
def MadeOf (kind : Char → Prop) (text : String) : Prop :=
  ∀ character ∈ text.toList, kind character

instance (kind : Char → Prop) [DecidablePred kind] (text : String) : Decidable (MadeOf kind text) :=
  List.decidableBAll kind text.toList

section

variable {kind : Char → Prop} {text more : String}

/-! ### Texts put together -/

theorem MadeOf.append (first : MadeOf kind text) (second : MadeOf kind more) :
    MadeOf kind (text ++ more) := by
  intro character member
  rw [String.toList_append, List.mem_append] at member
  exact member.elim (first character) (second character)

theorem MadeOf.intercalate {separator : String} (between : MadeOf kind separator)
    {parts : List String} (each : ∀ part ∈ parts, MadeOf kind part) :
    MadeOf kind (separator.intercalate parts) := by
  unfold MadeOf
  rw [String.toList_intercalate]
  induction parts with
  | nil => exact nofun
  | cons part parts ih =>
      rw [List.forall_mem_cons] at each
      cases parts with
      | nil =>
          rw [List.map_singleton, List.intercalate_singleton]
          exact each.1
      | cons next parts =>
          rw [List.map_cons, List.map_cons, List.intercalate_cons_cons, List.forall_mem_append,
            List.forall_mem_append]
          exact ⟨⟨each.1, between⟩, ih each.2⟩

/-- The characters of a literal are those that it is made of. -/
theorem madeOf_ofList {characters : List Char} (each : ∀ character ∈ characters, kind character) :
    MadeOf kind (String.ofList characters) := by
  unfold MadeOf
  rw [String.toList_ofList]
  exact each

/-! ### Numbers -/

theorem isDigit_of_mem_toString {number : Nat} {character : Char}
    (member : character ∈ (toString number).toList) : character.isDigit = true := by
  rw [Nat.toString_eq_ofList_toDigits, String.toList_ofList] at member
  exact Nat.isDigit_of_mem_toDigits (by decide) (by decide) member

theorem toString_injective {first second : Nat} (same : toString first = toString second) :
    first = second := by
  rw [Nat.toString_eq_ofList_toDigits, Nat.toString_eq_ofList_toDigits, String.ofList_inj] at same
  have numbers := congrArg (fun written => Nat.ofDigitChars 10 written 0) same
  rw [Nat.ofDigitChars_toDigits (by decide) (by decide),
    Nat.ofDigitChars_toDigits (by decide) (by decide)] at numbers
  exact numbers

theorem madeOf_toString (digits : ∀ character : Char, character.isDigit = true → kind character)
    (number : Nat) : MadeOf kind (toString number) :=
  fun character member => digits character (isDigit_of_mem_toString member)

theorem madeOf_toString_int
    (digits : ∀ character : Char, character.isDigit = true → kind character) (minus : kind '-')
    (number : Int) : MadeOf kind (toString number) := by
  cases number with
  | ofNat number => exact madeOf_toString digits number
  | negSucc number =>
      have signed : MadeOf kind "-" := madeOf_ofList (List.forall_mem_singleton.mpr minus)
      exact signed.append (madeOf_toString digits (number + 1))

end

/-! ### Plain characters -/

/-- The characters that one byte encodes are of a kind. -/
def KeepsPlain (kind : Char → Prop) : Prop :=
  ∀ character : Char, character.toNat < 128 → kind character

section

variable {kind : Char → Prop} (keeps : KeepsPlain kind)

include keeps

theorem madeOf_plain {characters : List Char}
    (plain : (characters.all fun character => character.toNat < 128) = true) :
    MadeOf kind (String.ofList characters) :=
  madeOf_ofList fun character member =>
    keeps character (of_decide_eq_true (List.all_eq_true.mp plain character member))

theorem KeepsPlain.digit (character : Char) (digit : character.isDigit = true) :
    kind character := by
  apply keeps
  rw [Char.isDigit, Bool.and_eq_true, decide_eq_true_eq, decide_eq_true_eq] at digit
  have most : character.toNat ≤ 57 := digit.2
  omega

theorem madeOf_number (number : Nat) : MadeOf kind (toString number) :=
  madeOf_toString keeps.digit number

theorem madeOf_integer (number : Int) : MadeOf kind (toString number) :=
  madeOf_toString_int keeps.digit (keeps '-' (by decide)) number

end

/-! ### Lines -/

namespace Text

theorem subset_of_breakLines (returnBreaks : Bool) (text : List Char) :
    ∀ line ∈ breakLines returnBreaks text, line ⊆ text := by
  have behindBreak {lines : List (List Char)} {rest : List Char}
      (within : ∀ line ∈ lines, line ⊆ rest) (first : Char) :
      ∀ line ∈ [] :: lines, line ⊆ first :: rest :=
    List.forall_mem_cons.mpr ⟨List.nil_subset _,
      fun line member => List.subset_cons_of_subset first (within line member)⟩
  have extended {lines : List (List Char)} {rest : List Char}
      (within : ∀ line ∈ lines, line ⊆ rest) (first : Char) :
      ∀ line ∈ extendFirst first lines, line ⊆ first :: rest := by
    cases lines with
    | nil => simp [extendFirst]
    | cons line lines =>
        rw [List.forall_mem_cons] at within
        exact List.forall_mem_cons.mpr ⟨List.cons_subset_cons first within.1,
          fun other member => List.subset_cons_of_subset first (within.2 other member)⟩
  fun_induction breakLines returnBreaks text with
  | case1 => simp
  | case2 rest ih =>
      exact fun line member => List.subset_cons_of_subset _ (behindBreak ih '\n' line member)
  | case3 rest ih => exact behindBreak ih _
  | case4 rest alone breaks ih => exact behindBreak ih _
  | case5 rest alone stays ih => exact extended ih _
  | case6 character rest notBreak notFeed notReturn ih => exact extended ih _

end Text

end ListingAtlas
