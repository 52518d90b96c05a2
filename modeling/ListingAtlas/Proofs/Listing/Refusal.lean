import ListingAtlas.Proofs.Listing.Reading

/-!
Where reading a listing fails: at the first line directive in the target whose token is no number
that can be read, with a failure that tells of this directive alone. The file directives that enter
and leave the target decide what is in it; beside them and the line directives in it, nothing has a
say in the matter.
-/

namespace ListingAtlas.Listing

namespace Source

/-- A line directive stands here in the target, the token of which is refused: if it holds anything
but digits it is told with its line, and if it holds too many digits it is told by their number. -/
def Refuses (source : Source) (position : Nat) (failure : Failure) : Prop :=
  source.InTarget position ∧ source.kindAt? position = some .lineDirective ∧
    ∃ line token, source.lineAt? position = some line ∧
      source.dialect.lineToken? line = some token ∧
      (Text.isNumeral token.toList = false ∧ failure = .malformedDirective position line ∨
        Text.isNumeral token.toList = true ∧ Number.digitLimit < token.toList.length ∧
          failure = .numeralTooLong token.toList.length)

/-- No line directive before the position is refused. -/
def Reached (source : Source) (position : Nat) : Prop :=
  ∀ earlier < position, ∀ failure, ¬ source.Refuses earlier failure

def FirstRefusal (source : Source) (position : Nat) (failure : Failure) : Prop :=
  source.Refuses position failure ∧ source.Reached position

variable {source : Source} {position : Nat}

theorem Refuses.unique {first second : Failure} (one : source.Refuses position first)
    (two : source.Refuses position second) : first = second := by
  obtain ⟨_inTarget, _kind, line, token, atLine, found, refused⟩ := one
  obtain ⟨_inTarget, _kind, other, otherToken, atOther, otherFound, refusedToo⟩ := two
  rw [atLine, Option.some.injEq] at atOther
  subst atOther
  rw [found, Option.some.injEq] at otherFound
  subst otherFound
  rcases refused with ⟨malformed, rfl⟩ | ⟨numeral, _long, rfl⟩
  · rcases refusedToo with ⟨_malformed, rfl⟩ | ⟨numeral, _rest⟩
    · rfl
    · rw [malformed] at numeral
      cases numeral
  · rcases refusedToo with ⟨malformed, _rest⟩ | ⟨_numeral, _long, rfl⟩
    · rw [malformed] at numeral
      cases numeral
    · rfl

theorem FirstRefusal.unique {first second : Nat} {failure other : Failure}
    (one : source.FirstRefusal first failure) (two : source.FirstRefusal second other) :
    failure = other := by
  have notBefore : ¬ first < second := fun before => two.2 first before failure one.1
  have notBehind : ¬ second < first := fun before => one.2 second before other two.1
  have same : first = second := by omega
  subst same
  exact one.1.unique two.1

theorem Refuses.within {failure : Failure} (refused : source.Refuses position failure) :
    position ≤ source.lines.length := by
  cases position with
  | zero => exact Nat.zero_le _
  | succ index =>
      obtain ⟨_inTarget, _kind, line, _token, atLine, _rest⟩ := refused
      obtain ⟨inRange, _value⟩ := List.getElem?_eq_some_iff.mp atLine
      exact inRange

theorem not_refuses_zero (source : Source) (failure : Failure) : ¬ source.Refuses 0 failure := by
  intro refused
  have kind := refused.2.1
  rw [kindAt?_zero] at kind
  cases kind

theorem reached_one (source : Source) : source.Reached 1 := by
  intro earlier before failure
  rw [Nat.lt_one_iff.mp before]
  exact source.not_refuses_zero failure

theorem Reached.succ (reached : source.Reached position)
    (here : ∀ failure, ¬ source.Refuses position failure) : source.Reached (position + 1) := by
  intro earlier before failure
  by_cases same : earlier = position
  · rw [same]
    exact here failure
  · exact reached earlier (by omega) failure

theorem Reached.of_succ (reached : source.Reached (position + 1)) : source.Reached position :=
  fun earlier before => reached earlier (Nat.lt_succ_of_lt before)

end Source

/-! ### Reading up to a failure -/

/-- The next line fails to be read just if a directive is refused there. -/
theorem Read.step_eq_error_iff {source : Source} {count : Nat} {state : State} {line : String}
    (read : Read source count state) (atLine : source.lineAt? (count + 1) = some line)
    (failure : Failure) :
    Listing.step source.dialect source.target state ((count + 1 : Nat) : Int) line = .error failure ↔
      source.Refuses (count + 1) failure := by
  have here := Source.kindAt?_of_lineAt? atLine
  rw [Listing.step_eq_error_iff, read.inTarget]
  constructor
  · rintro ⟨inTarget, kind, token, found, failed⟩
    rw [kind] at here
    exact ⟨inTarget, here, line, token, atLine, found, directiveNumber_eq_error_iff.mp failed⟩
  · rintro ⟨inTarget, kind, other, token, atOther, found, failed⟩
    rw [atLine, Option.some.injEq] at atOther
    subst atOther
    rw [here, Option.some.injEq] at kind
    exact ⟨inTarget, kind, token, found, directiveNumber_eq_error_iff.mpr failed⟩

/-- Reading the rest of a listing, where nothing has been refused so far. -/
theorem Read.run_refusal {source : Source} {before rest : List String} {state : State}
    (read : Read source before.length state) (parts : before ++ rest = source.lines)
    (reached : source.Reached (before.length + 1)) :
    match Listing.run source.dialect source.target state ((before.length + 1 : Nat) : Int) rest with
    | .ok _ => ∀ position failure, ¬ source.Refuses position failure
    | .error failure => ∃ position, source.FirstRefusal position failure := by
  induction rest generalizing before state with
  | nil =>
      rw [Listing.run]
      intro position failure refused
      have within := refused.within
      rw [← parts, List.append_nil] at within
      exact reached position (by omega) failure refused
  | cons line rest ih =>
      have atLine := Source.lineAt?_of_parts parts
      rw [Listing.run]
      cases stepped : Listing.step source.dialect source.target state
          ((before.length + 1 : Nat) : Int) line with
      | error failure =>
          exact ⟨before.length + 1, (read.step_eq_error_iff atLine failure).mp stepped, reached⟩
      | ok next =>
          have accepted : ∀ failure, ¬ source.Refuses (before.length + 1) failure := by
            intro failure refused
            rw [(read.step_eq_error_iff atLine failure).mpr refused] at stepped
            cases stepped
          have counted : before.length + 1 = (before ++ [line]).length := by
            rw [List.length_append, List.length_singleton]
          have after := read.step atLine (stepped_of_step stepped)
          have further := reached.succ accepted
          rw [counted] at after further
          have ended := ih after ((List.append_cons before line rest).symm.trans parts) further
          rw [← counted, Int.natCast_succ] at ended
          exact ended

/-- Reading a whole listing tells whether a directive is refused. -/
theorem blocksOfLines_refusal (source : Source) :
    match blocksOfLines source.dialect source.target source.lines with
    | .ok _ => ∀ position failure, ¬ source.Refuses position failure
    | .error failure => ∃ position, source.FirstRefusal position failure := by
  have start : Read source ([] : List String).length State.initial := read_initial source
  have ended := start.run_refusal (List.nil_append source.lines) source.reached_one
  change match Listing.run source.dialect source.target State.initial 1 source.lines with
    | .ok _ => ∀ position failure, ¬ source.Refuses position failure
    | .error failure => ∃ position, source.FirstRefusal position failure at ended
  unfold blocksOfLines
  cases ran : Listing.run source.dialect source.target State.initial 1 source.lines with
  | ok final =>
      rw [ran] at ended
      exact ended
  | error failure =>
      rw [ran] at ended
      exact ended

theorem blocksOfLines_eq_error_iff (source : Source) (failure : Failure) :
    blocksOfLines source.dialect source.target source.lines = .error failure ↔
      ∃ position, source.FirstRefusal position failure := by
  have ended := blocksOfLines_refusal source
  cases outcome : blocksOfLines source.dialect source.target source.lines with
  | ok blocks =>
      rw [outcome] at ended
      constructor
      · intro failed
        cases failed
      · rintro ⟨position, refused, _reached⟩
        exact absurd refused (ended position failure)
  | error other =>
      rw [outcome] at ended
      obtain ⟨first, refused⟩ := ended
      constructor
      · intro failed
        rw [← Except.error.inj failed]
        exact ⟨first, refused⟩
      · rintro ⟨position, refusedToo⟩
        rw [refused.unique refusedToo]

theorem exists_blocksOfLines_iff (source : Source) :
    (∃ blocks, blocksOfLines source.dialect source.target source.lines = .ok blocks) ↔
      ∀ position failure, ¬ source.Refuses position failure := by
  have ended := blocksOfLines_refusal source
  cases outcome : blocksOfLines source.dialect source.target source.lines with
  | ok blocks =>
      rw [outcome] at ended
      exact ⟨fun _read => ended, fun _none => ⟨blocks, rfl⟩⟩
  | error failure =>
      rw [outcome] at ended
      obtain ⟨position, refused, _reached⟩ := ended
      constructor
      · rintro ⟨blocks, read⟩
        cases read
      · exact fun none => absurd refused (none position failure)

/-! ### What has a say in a failure -/

namespace Source

/-- Outside the target, two listings both enter it at a position or neither does; in it, both leave it
or neither does, and they have the same line directive there or none. -/
structure SameMarks (one other : Source) (position : Nat) : Prop where
  enters : ¬ one.InTarget position → (one.Enters position ↔ other.Enters position)
  leaves : one.InTarget position → (one.Leaves position ↔ other.Leaves position)
  directive : one.InTarget position → ∀ line,
    one.lineAt? position = some line ∧ one.kindAt? position = some .lineDirective ↔
      other.lineAt? position = some line ∧ other.kindAt? position = some .lineDirective

section

variable {source other : Source} {position : Nat}

/-- Where the target is goes by the file directives that enter and leave it. -/
theorem inTarget_congr (same : ∀ earlier < position, source.SameMarks other earlier) :
    source.InTarget position ↔ other.InTarget position := by
  induction position with
  | zero =>
      constructor
      · rintro ⟨directive, before, _rest⟩
        omega
      · rintro ⟨directive, before, _rest⟩
        omega
  | succ position ih =>
      have here := same position (Nat.lt_succ_self position)
      have before := ih fun earlier earliest => same earlier (Nat.lt_succ_of_lt earliest)
      by_cases inside : source.InTarget position
      · rw [inTarget_succ_of_inside inside, inTarget_succ_of_inside (before.mp inside),
          here.leaves inside]
      · have outside : ¬ other.InTarget position := fun otherwise => inside (before.mpr otherwise)
        rw [inTarget_succ_of_outside inside, inTarget_succ_of_outside outside, here.enters inside]

theorem refuses_congr (sameDialect : other.dialect = source.dialect)
    (same : ∀ earlier ≤ position, source.SameMarks other earlier) (failure : Failure) :
    source.Refuses position failure ↔ other.Refuses position failure := by
  have inTarget : source.InTarget position ↔ other.InTarget position :=
    inTarget_congr fun earlier before => same earlier (Nat.le_of_lt before)
  have here := (same position (Nat.le_refl position)).directive
  constructor
  · rintro ⟨inside, kind, line, token, atLine, found, refused⟩
    obtain ⟨atOther, otherKind⟩ := (here inside line).mp ⟨atLine, kind⟩
    rw [← sameDialect] at found
    exact ⟨inTarget.mp inside, otherKind, line, token, atOther, found, refused⟩
  · rintro ⟨inside, kind, line, token, atLine, found, refused⟩
    obtain ⟨atOther, otherKind⟩ := (here (inTarget.mpr inside) line).mpr ⟨atLine, kind⟩
    rw [sameDialect] at found
    exact ⟨inTarget.mpr inside, otherKind, line, token, atOther, found, refused⟩

theorem reached_of_reached (sameDialect : other.dialect = source.dialect)
    (same : ∀ position, source.Reached position → source.SameMarks other position)
    (reached : other.Reached position) : source.Reached position := by
  induction position with
  | zero => exact fun earlier before => absurd before (Nat.not_lt_zero earlier)
  | succ position ih =>
      have before := ih reached.of_succ
      apply before.succ
      intro failure refused
      have marks : ∀ earlier ≤ position, source.SameMarks other earlier := fun earlier within =>
        same earlier fun first earliest => before first (by omega)
      exact reached position (Nat.lt_succ_self position) failure
        ((refuses_congr sameDialect marks failure).mp refused)

theorem firstRefusal_congr (sameDialect : other.dialect = source.dialect)
    (same : ∀ position, source.Reached position → source.SameMarks other position)
    (failure : Failure) :
    source.FirstRefusal position failure ↔ other.FirstRefusal position failure := by
  have congr {position : Nat} (reached : source.Reached position) (failure : Failure) :
      source.Refuses position failure ↔ other.Refuses position failure :=
    refuses_congr sameDialect
      (fun earlier within => same earlier fun first earliest => reached first (by omega)) failure
  constructor
  · rintro ⟨refused, reached⟩
    refine ⟨(congr reached failure).mp refused, ?_⟩
    intro earlier before otherFailure otherRefused
    have reachedToo : source.Reached earlier := fun first earliest => reached first (by omega)
    exact reached earlier before otherFailure ((congr reachedToo otherFailure).mpr otherRefused)
  · rintro ⟨refused, reached⟩
    have reachedToo := reached_of_reached sameDialect same reached
    exact ⟨(congr reachedToo failure).mpr refused, reachedToo⟩

end

end Source

/-- Whether a listing can be attributed, and how it fails, apart from its blocks. -/
theorem outcome_congr {source other : Source} (sameDialect : other.dialect = source.dialect)
    (same : ∀ position, source.Reached position → source.SameMarks other position) :
    (blocksOfLines other.dialect other.target other.lines).map (fun _blocks => ()) =
      (blocksOfLines source.dialect source.target source.lines).map fun _blocks => () := by
  have failures (failure : Failure) :
      blocksOfLines other.dialect other.target other.lines = .error failure ↔
        blocksOfLines source.dialect source.target source.lines = .error failure := by
    simp only [blocksOfLines_eq_error_iff, Source.firstRefusal_congr sameDialect same]
  cases outcome : blocksOfLines source.dialect source.target source.lines with
  | error failure => rw [(failures failure).mpr outcome]
  | ok blocks =>
      cases otherOutcome : blocksOfLines other.dialect other.target other.lines with
      | ok otherBlocks => rfl
      | error failure =>
          rw [(failures failure).mp otherOutcome] at outcome
          cases outcome

/-- A listing can be attributed just if no line directive in the target is refused; else it fails as
the first one that is refused says. This goes by where the target is entered and left and by the line
directives in it, as far as they are read: another listing with the same ones there does the same. -/
theorem blocksOf_fails_at_first_refusal (dialect : Dialect) (target : Target) (listing : String) :
    let source : Source :=
      { dialect := dialect, target := target, lines := Text.linesAtFeeds listing }
    ((∃ blocks, blocksOf dialect target listing = .ok blocks) ↔
      ∀ position failure, ¬ source.Refuses position failure) ∧
    (∀ failure, blocksOf dialect target listing = .error failure ↔
      ∃ position, source.FirstRefusal position failure) ∧
    ∀ (otherTarget : Target) (otherListing : String),
      let other : Source :=
        { dialect := dialect, target := otherTarget, lines := Text.linesAtFeeds otherListing }
      (∀ position, source.Reached position → source.SameMarks other position) →
        (blocksOf dialect otherTarget otherListing).map (fun _blocks => ()) =
          (blocksOf dialect target listing).map fun _blocks => () := by
  intro source
  refine ⟨exists_blocksOfLines_iff source, blocksOfLines_eq_error_iff source, ?_⟩
  intro otherTarget otherListing other same
  have sameDialect : other.dialect = source.dialect := rfl
  exact outcome_congr sameDialect same

end ListingAtlas.Listing
