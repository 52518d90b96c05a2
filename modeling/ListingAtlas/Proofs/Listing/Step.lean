import ListingAtlas.Listing.Attribution

/-!
What one line of a listing does, case by case. Everything about reading a listing that goes by its
lines is an induction over these cases.
-/

namespace ListingAtlas.Listing

/-! ### One more instruction -/

theorem Blocks.get?_append (blocks : Blocks) (sourceLine other : Int) (line : String) :
    (blocks.append sourceLine line).get? other =
      if other = sourceLine then some ((blocks.get? sourceLine).getD [] ++ [line])
      else blocks.get? other :=
  Table.get?_insert blocks sourceLine other _

theorem Blocks.mem_keys_append (blocks : Blocks) (sourceLine other : Int) (line : String) :
    other ∈ (blocks.append sourceLine line).keys ↔ other ∈ blocks.keys ∨ other = sourceLine :=
  Table.mem_keys_insert blocks sourceLine other _

/-! ### One line -/

/-- How a line that is read without failure leads from one state to the next. -/
inductive Stepped (dialect : Dialect) (target : Target) (line : String) (state : State) :
    State → Prop
  | enter (kind : dialect.classify line = .fileDirective)
      (names : dialect.namesFile line target.path = true) :
      Stepped dialect target line state { state with inTarget := true }
  | leave (kind : dialect.classify line = .fileDirective)
      (other : dialect.namesFile line target.path = false) :
      Stepped dialect target line state
        { state with inTarget := false, inSegment := false, current := none }
  | outside (kind : dialect.classify line ≠ .fileDirective) (out : state.inTarget = false) :
      Stepped dialect target line state state
  | openSegment (kind : dialect.classify line = .segmentOpen) (inside : state.inTarget = true) :
      Stepped dialect target line state { state with inSegment := true }
  | closeSegment (kind : dialect.classify line = .segmentClose) (inside : state.inTarget = true) :
      Stepped dialect target line state { state with inSegment := false, current := none }
  | announce (kind : dialect.classify line = .lineDirective) (inside : state.inTarget = true)
      (token : String) (found : dialect.lineToken? line = some token)
      (numeral : Text.isNumeral token.toList = true)
      (short : token.toList.length ≤ Number.digitLimit) :
      Stepped dialect target line state
        { state with
          current := announcedLine target state.blocks (Text.numberOf token.toList) }
  | unindent (kind : dialect.classify line = .unindented) (inside : state.inTarget = true) :
      Stepped dialect target line state { state with current := none }
  | collect (kind : dialect.classify line = .instruction) (inside : state.inTarget = true)
      (inSegment : state.inSegment = true) (sourceLine : Int)
      (current : state.current = some sourceLine) :
      Stepped dialect target line state
        { state with blocks := state.blocks.append sourceLine line }
  | drop (kind : dialect.classify line = .instruction) (inside : state.inTarget = true)
      (idle : state.inSegment = false ∨ state.current = none) :
      Stepped dialect target line state state
  | ignore (kind : dialect.classify line = .comment ∨ dialect.classify line = .blank)
      (inside : state.inTarget = true) : Stepped dialect target line state state

theorem Dialect.lineToken?_of_classify {dialect : Dialect} {line : String}
    (kind : dialect.classify line = .lineDirective) :
    ∃ token, dialect.lineToken? line = some token := by
  unfold classify at kind
  split at kind
  · cases kind
  · split at kind
    · cases kind
    · split at kind
      · cases kind
      · split at kind
        · rename_i found
          exact Option.isSome_iff_exists.mp found
        · split at kind
          · cases kind
          · split at kind
            · cases kind
            · split at kind <;> cases kind

theorem directiveNumber_eq_ok {position number : Int} {line token : String}
    (read : directiveNumber position line token = .ok number) :
    Text.isNumeral token.toList = true ∧ token.toList.length ≤ Number.digitLimit ∧
      number = Text.numberOf token.toList := by
  unfold directiveNumber at read
  split at read
  · cases read
  · rename_i numeral
    split at read
    · cases read
    · rename_i short
      rw [Except.ok.injEq] at read
      refine ⟨?_, by omega, read.symm⟩
      simpa using numeral

/-- A line that is announced is the one of the directive, which the source has and which has no
block. -/
theorem announcedLine_eq_some_iff {target : Target} {blocks : Blocks} {number sourceLine : Int} :
    announcedLine target blocks number = some sourceLine ↔
      number = sourceLine ∧ 1 ≤ sourceLine ∧ sourceLine ≤ target.lineCount ∧
        blocks.get? sourceLine = none := by
  unfold announcedLine
  split
  · rename_i refused
    simp only [Bool.or_eq_true, decide_eq_true_eq, Table.contains, Option.isSome_iff_ne_none]
      at refused
    constructor
    · intro announced
      cases announced
    · rintro ⟨rfl, first, last, unknown⟩
      rcases refused with (below | above) | known
      · omega
      · omega
      · exact absurd unknown known
  · rename_i accepted
    simp only [Bool.or_eq_true, decide_eq_true_eq, not_or, Table.contains,
      Option.not_isSome_iff_eq_none] at accepted
    obtain ⟨⟨notBelow, notAbove⟩, unknown⟩ := accepted
    rw [Option.some.injEq]
    constructor
    · rintro rfl
      exact ⟨rfl, by omega, by omega, unknown⟩
    · exact And.left

theorem announcedLine_eq (target : Target) (blocks : Blocks) (number : Int) :
    announcedLine target blocks number =
      if 1 ≤ number ∧ number ≤ target.lineCount ∧ number ∉ blocks.keys then some number
      else none := by
  split
  · rename_i counts
    obtain ⟨first, last, new⟩ := counts
    exact announcedLine_eq_some_iff.mpr ⟨rfl, first, last, Table.get?_eq_none new⟩
  · rename_i refused
    rw [Option.eq_none_iff_forall_ne_some]
    intro sourceLine announced
    obtain ⟨rfl, first, last, unknown⟩ := announcedLine_eq_some_iff.mp announced
    refine refused ⟨first, last, fun known => ?_⟩
    rw [← Table.get?_isSome_iff, unknown] at known
    cases known

/-- A line in the target that is no file directive. -/
theorem stepped_inside {dialect : Dialect} {target : Target} {state next : State} {position : Int}
    {line : String} (inside : state.inTarget = true)
    (ordinary : dialect.classify line ≠ .fileDirective)
    (read : step dialect target state position line = .ok next) :
    Stepped dialect target line state next := by
  obtain ⟨inTarget, inSegment, current, blocks⟩ := state
  simp only at inside
  subst inside
  unfold step at read
  cases kind : dialect.classify line with
  | fileDirective => exact absurd kind ordinary
  | segmentOpen =>
      simp only [kind, Bool.not_true, Bool.false_eq_true, if_false, Except.ok.injEq] at read
      rw [← read]
      exact .openSegment kind rfl
  | segmentClose =>
      simp only [kind, Bool.not_true, Bool.false_eq_true, if_false, Except.ok.injEq] at read
      rw [← read]
      exact .closeSegment kind rfl
  | lineDirective =>
      obtain ⟨token, found⟩ := Dialect.lineToken?_of_classify kind
      simp only [kind, Bool.not_true, Bool.false_eq_true, if_false, found, Option.getD_some] at read
      cases numbered : directiveNumber position line token with
      | error failure =>
          rw [numbered] at read
          cases read
      | ok number =>
          obtain ⟨numeral, short, value⟩ := directiveNumber_eq_ok numbered
          rw [numbered, Except.map, Except.ok.injEq] at read
          rw [← read, value]
          exact .announce kind rfl token found numeral short
  | comment =>
      simp only [kind, Bool.not_true, Bool.false_eq_true, if_false, Except.ok.injEq] at read
      rw [← read]
      exact .ignore (Or.inl kind) rfl
  | blank =>
      simp only [kind, Bool.not_true, Bool.false_eq_true, if_false, Except.ok.injEq] at read
      rw [← read]
      exact .ignore (Or.inr kind) rfl
  | unindented =>
      simp only [kind, Bool.not_true, Bool.false_eq_true, if_false, Except.ok.injEq] at read
      rw [← read]
      exact .unindent kind rfl
  | instruction =>
      simp only [kind, Bool.not_true, Bool.false_eq_true, if_false] at read
      cases current with
      | none =>
          rw [← Except.ok.inj read]
          exact .drop kind rfl (Or.inr rfl)
      | some sourceLine =>
          cases inSegment with
          | false =>
              rw [← Except.ok.inj read]
              exact .drop kind rfl (Or.inl rfl)
          | true =>
              rw [← Except.ok.inj read]
              exact .collect kind rfl rfl sourceLine rfl

theorem step_outside {dialect : Dialect} {state : State} {line : String}
    (ordinary : dialect.classify line ≠ .fileDirective) (out : state.inTarget = false)
    (target : Target) (position : Int) :
    step dialect target state position line = .ok state := by
  unfold step
  split
  · rename_i directive
    exact absurd directive ordinary
  · rw [out]
    rfl

theorem stepped_of_step {dialect : Dialect} {target : Target} {state next : State}
    {position : Int} {line : String}
    (read : step dialect target state position line = .ok next) :
    Stepped dialect target line state next := by
  by_cases directive : dialect.classify line = .fileDirective
  · unfold step at read
    simp only [directive] at read
    cases names : dialect.namesFile line target.path with
    | true =>
        rw [names, if_pos rfl, Except.ok.injEq] at read
        rw [← read]
        exact .enter directive names
    | false =>
        rw [names, if_neg (by simp), Except.ok.injEq] at read
        rw [← read]
        exact .leave directive names
  · cases inside : state.inTarget with
    | true => exact stepped_inside inside directive read
    | false =>
        rw [step_outside directive inside, Except.ok.injEq] at read
        rw [← read]
        exact .outside directive inside

/-! ### What a line does, told without its position -/

theorem directiveNumber_of_numeral {token : String} (numeral : Text.isNumeral token.toList = true)
    (short : token.toList.length ≤ Number.digitLimit) (position : Int) (line : String) :
    directiveNumber position line token = .ok (Text.numberOf token.toList) := by
  unfold directiveNumber
  rw [numeral, if_neg (by simp), if_neg (by omega)]

/-- A token is refused for what it is, and told with its line, or for its length. -/
theorem directiveNumber_eq_error_iff {position : Int} {line token : String} {failure : Failure} :
    directiveNumber position line token = .error failure ↔
      (Text.isNumeral token.toList = false ∧ failure = .malformedDirective position line) ∨
        (Text.isNumeral token.toList = true ∧ Number.digitLimit < token.toList.length ∧
          failure = .numeralTooLong token.toList.length) := by
  unfold directiveNumber
  cases numeral : Text.isNumeral token.toList with
  | false => simp [eq_comm]
  | true =>
      by_cases long : Number.digitLimit < token.toList.length
      · simp [long, eq_comm]
      · simp [long]

theorem step_of_stepped {dialect : Dialect} {target : Target} {state next : State} {line : String}
    (stepped : Stepped dialect target line state next) (position : Int) :
    step dialect target state position line = .ok next := by
  cases stepped with
  | enter kind names => simp only [step, kind, names, if_true]
  | leave kind other => simp only [step, kind, other, Bool.false_eq_true, if_false]
  | outside kind out => exact step_outside kind out target position
  | openSegment kind inside =>
      simp only [step, kind, inside, Bool.not_true, Bool.false_eq_true, if_false]
  | closeSegment kind inside =>
      simp only [step, kind, inside, Bool.not_true, Bool.false_eq_true, if_false]
  | announce kind inside token found numeral short =>
      simp only [step, kind, inside, found, Bool.not_true, Bool.false_eq_true, if_false,
        Option.getD_some, directiveNumber_of_numeral numeral short]
      rfl
  | unindent kind inside =>
      simp only [step, kind, inside, Bool.not_true, Bool.false_eq_true, if_false]
  | collect kind inside inSegment sourceLine current =>
      simp only [step, kind, inside, inSegment, current, Bool.not_true, Bool.false_eq_true,
        if_false]
  | drop kind inside idle =>
      simp only [step, kind, inside, Bool.not_true, Bool.false_eq_true, if_false]
      rcases idle with closed | unknown
      · rw [closed]
        cases state.current <;> rfl
      · rw [unknown]
  | ignore kind inside =>
      rcases kind with kind | kind <;>
        simp only [step, kind, inside, Bool.not_true, Bool.false_eq_true, if_false]

/-- Reading a line fails only at a line directive in the target, for the number that it gives. -/
theorem step_eq_error_iff {dialect : Dialect} {target : Target} {state : State} {position : Int}
    {line : String} {failure : Failure} :
    step dialect target state position line = .error failure ↔
      state.inTarget = true ∧ dialect.classify line = .lineDirective ∧
        ∃ token, dialect.lineToken? line = some token ∧
          directiveNumber position line token = .error failure := by
  constructor
  · intro failed
    cases inside : state.inTarget with
    | false =>
        cases kind : dialect.classify line with
        | fileDirective =>
            unfold step at failed
            simp only [kind] at failed
            split at failed <;> cases failed
        | _ =>
            rw [step_outside (by rw [kind]; simp) inside] at failed
            cases failed
    | true =>
        unfold step at failed
        cases kind : dialect.classify line with
        | lineDirective =>
            obtain ⟨token, found⟩ := Dialect.lineToken?_of_classify kind
            simp only [kind, inside, found, Bool.not_true, Bool.false_eq_true, if_false,
              Option.getD_some] at failed
            refine ⟨rfl, rfl, token, found, ?_⟩
            cases numbered : directiveNumber position line token with
            | ok number =>
                rw [numbered] at failed
                cases failed
            | error other =>
                rw [numbered] at failed
                exact congrArg Except.error (Except.error.inj failed)
        | fileDirective =>
            simp only [kind] at failed
            split at failed <;> cases failed
        | instruction =>
            simp only [kind, inside, Bool.not_true, Bool.false_eq_true, if_false] at failed
            split at failed <;> cases failed
        | _ =>
            simp only [kind, inside, Bool.not_true, Bool.false_eq_true, if_false] at failed
            cases failed
  · rintro ⟨inside, kind, token, found, failed⟩
    simp only [step, kind, inside, found, Bool.not_true, Bool.false_eq_true, if_false,
      Option.getD_some, failed]
    rfl

end ListingAtlas.Listing
