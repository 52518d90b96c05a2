import ListingAtlas.Listing.Attribution

/-!
What a position of a listing means, read off the lines before it. Nothing here runs through a
listing: whether a position lies in the target file, whether a segment is open there, and which
source line is current are said by looking back at the markers that decide it.
-/

namespace ListingAtlas.Listing

/-- The lines of a listing with the file of interest. Positions count from one. -/
structure Source where
  dialect : Dialect
  target : Target
  lines : List String

namespace Source

variable (source : Source)

def lineAt? : Nat → Option String
  | 0 => none
  | index + 1 => source.lines[index]?

def kindAt? (position : Nat) : Option LineKind :=
  (source.lineAt? position).map source.dialect.classify

/-- Whether a file directive stands here that names the target. -/
def Enters (position : Nat) : Prop :=
  source.kindAt? position = some .fileDirective ∧
    ∃ line, source.lineAt? position = some line ∧
      source.dialect.namesFile line source.target.path = true

/-- Whether a file directive stands here that names another file. -/
def Leaves (position : Nat) : Prop :=
  source.kindAt? position = some .fileDirective ∧
    ∃ line, source.lineAt? position = some line ∧
      source.dialect.namesFile line source.target.path = false

/-- The value of the number token of a line directive. -/
def Announces (position : Nat) (number : Int) : Prop :=
  source.kindAt? position = some .lineDirective ∧
    ∃ line token, source.lineAt? position = some line ∧
      source.dialect.lineToken? line = some token ∧ Text.numberOf token.toList = number

/-- Some file directive precedes the position, and the last one names the target. -/
def InTarget (position : Nat) : Prop :=
  ∃ directive < position, source.Enters directive ∧
    ∀ later, directive < later → later < position → source.kindAt? later ≠ some .fileDirective

/-- The position that is the last before another at which the target is left; zero if it never is. -/
def LastLeft (position left : Nat) : Prop :=
  left < position ∧ (left = 0 ∨ source.Leaves left) ∧
    ∀ later, left < later → later < position → ¬ source.Leaves later

/-- Since the target was last left, a segment was opened in it and not closed. -/
def SegmentOpen (position : Nat) : Prop :=
  ∃ left, source.LastLeft position left ∧
    ∃ opened, left < opened ∧ opened < position ∧ source.InTarget opened ∧
      source.kindAt? opened = some .segmentOpen ∧
      ∀ later, opened < later → later < position → source.kindAt? later ≠ some .segmentClose

/-- The kinds of lines after which the source line that was current is so no more. -/
def Decides (position : Nat) : Prop :=
  source.kindAt? position = some .lineDirective ∨ source.kindAt? position = some .segmentClose ∨
    source.kindAt? position = some .unindented

/-- A line is collected for a source line if it is an instruction in the target file and in an open
segment, and if the last line before it that decides this, in the target and since that was last
left, is a directive for this source line, which the source has and for which nothing had been
collected before the directive. -/
def Collected (position : Nat) (sourceLine : Int) : Prop :=
  source.kindAt? position = some .instruction ∧ source.InTarget position ∧
    source.SegmentOpen position ∧
    ∃ left, source.LastLeft position left ∧
      ∃ directive, ∃ _before : directive < position, left < directive ∧
        source.InTarget directive ∧ source.Announces directive sourceLine ∧
        1 ≤ sourceLine ∧ sourceLine ≤ source.target.lineCount ∧
        (∀ later, directive < later → later < position → source.InTarget later →
          ¬ source.Decides later) ∧
        ∀ earlier, (_ : earlier < directive) → ¬ Collected earlier sourceLine
termination_by position

/-- The part of that which looks back at directives. -/
def Current (position : Nat) (sourceLine : Int) : Prop :=
  ∃ left, source.LastLeft position left ∧
    ∃ directive < position, left < directive ∧
      source.InTarget directive ∧ source.Announces directive sourceLine ∧
      1 ≤ sourceLine ∧ sourceLine ≤ source.target.lineCount ∧
      (∀ later, directive < later → later < position → source.InTarget later →
        ¬ source.Decides later) ∧
      ∀ earlier < directive, ¬ source.Collected earlier sourceLine

theorem collected_iff (position : Nat) (sourceLine : Int) :
    source.Collected position sourceLine ↔
      source.kindAt? position = some .instruction ∧ source.InTarget position ∧
        source.SegmentOpen position ∧ source.Current position sourceLine := by
  rw [Collected]
  simp only [Current, exists_prop]

/-! ### From one position to the next -/

variable {source : Source} {position : Nat}

theorem kindAt?_zero : source.kindAt? 0 = none := rfl

theorem not_leaves_of_kind {kind : LineKind} (here : source.kindAt? position = some kind)
    (other : kind ≠ .fileDirective) : ¬ source.Leaves position := by
  intro leaves
  rw [leaves.1, Option.some.injEq] at here
  exact other here.symm

theorem LastLeft.unique {first second : Nat} (one : source.LastLeft position first)
    (two : source.LastLeft position second) : first = second := by
  have notAfter {left other : Nat} (last : source.LastLeft position left)
      (past : source.LastLeft position other) : ¬ left < other := by
    intro after
    rcases past.2.1 with zero | leaves
    · omega
    · exact last.2.2 other after past.1 leaves
  have notFirst := notAfter one two
  have notSecond := notAfter two one
  omega

/-- Where the target was left last can be told of each position but the zeroth. -/
theorem exists_lastLeft (source : Source) (position : Nat) :
    ∃ left, source.LastLeft (position + 1) left := by
  induction position with
  | zero => exact ⟨0, by omega, Or.inl rfl, by omega⟩
  | succ position ih =>
      obtain ⟨left, before, leaves, last⟩ := ih
      by_cases here : source.Leaves (position + 1)
      · exact ⟨position + 1, by omega, Or.inr here, by omega⟩
      · refine ⟨left, by omega, leaves, ?_⟩
        intro later after within
        by_cases same : later = position + 1
        · rw [same]
          exact here
        · exact last later after (by omega)

theorem lastLeft_succ_of_leaves (leaves : source.Leaves position) :
    source.LastLeft (position + 1) position :=
  ⟨by omega, Or.inr leaves, by omega⟩

theorem lastLeft_succ_iff (stays : ¬ source.Leaves position) (positive : 0 < position) (left : Nat) :
    source.LastLeft (position + 1) left ↔ source.LastLeft position left := by
  constructor
  · intro last
    have different : left ≠ position := by
      intro same
      rcases last.2.1 with zero | leaves
      · omega
      · rw [same] at leaves
        exact stays leaves
    have before := last.1
    exact ⟨by omega, last.2.1, fun later after within => last.2.2 later after (by omega)⟩
  · intro last
    refine ⟨by have before := last.1; omega, last.2.1, ?_⟩
    intro later after within
    by_cases same : later = position
    · rw [same]
      exact stays
    · exact last.2.2 later after (by omega)

theorem inTarget_succ_iff :
    source.InTarget (position + 1) ↔ source.Enters position ∨
      source.kindAt? position ≠ some .fileDirective ∧ source.InTarget position := by
  constructor
  · rintro ⟨directive, before, enters, last⟩
    by_cases same : directive = position
    · rw [← same]
      exact Or.inl enters
    · refine Or.inr ⟨last position (by omega) (by omega), directive, by omega, enters, ?_⟩
      exact fun later after within => last later after (by omega)
  · rintro (enters | ⟨other, directive, before, enters, last⟩)
    · exact ⟨position, by omega, enters, by omega⟩
    · refine ⟨directive, by omega, enters, ?_⟩
      intro later after within
      by_cases same : later = position
      · rw [same]
        exact other
      · exact last later after (by omega)

theorem enters_of_not_leaves (kind : source.kindAt? position = some .fileDirective)
    (stays : ¬ source.Leaves position) : source.Enters position := by
  obtain ⟨line, atLine, _classified⟩ := Option.map_eq_some_iff.mp kind
  cases names : source.dialect.namesFile line source.target.path with
  | true => exact ⟨kind, line, atLine, names⟩
  | false => exact absurd ⟨kind, line, atLine, names⟩ stays

theorem not_leaves_of_enters (enters : source.Enters position) : ¬ source.Leaves position := by
  obtain ⟨_kind, line, atLine, names⟩ := enters
  rintro ⟨_kind, other, atOther, otherwise⟩
  rw [atLine, Option.some.injEq] at atOther
  rw [← atOther, names] at otherwise
  cases otherwise

theorem inTarget_succ_of_inside (inside : source.InTarget position) :
    source.InTarget (position + 1) ↔ ¬ source.Leaves position := by
  rw [inTarget_succ_iff]
  constructor
  · rintro (enters | ⟨ordinary, _inside⟩)
    · exact not_leaves_of_enters enters
    · exact fun leaves => ordinary leaves.1
  · intro stays
    by_cases kind : source.kindAt? position = some .fileDirective
    · exact Or.inl (enters_of_not_leaves kind stays)
    · exact Or.inr ⟨kind, inside⟩

theorem inTarget_succ_of_outside (outside : ¬ source.InTarget position) :
    source.InTarget (position + 1) ↔ source.Enters position := by
  rw [inTarget_succ_iff]
  exact ⟨fun entered => entered.resolve_right fun stayed => outside stayed.2, Or.inl⟩

/-- Once in the target, one stays there until it is left. -/
theorem InTarget.until {first : Nat} (inTarget : source.InTarget first) {later : Nat}
    (notBefore : first ≤ later)
    (stays : ∀ between, first ≤ between → between < later → ¬ source.Leaves between) :
    source.InTarget later := by
  induction later with
  | zero =>
      rw [Nat.le_zero] at notBefore
      rw [← notBefore]
      exact inTarget
  | succ later ih =>
      by_cases last : first = later + 1
      · rw [← last]
        exact inTarget
      · have here := ih (by omega) fun between after within => stays between after (by omega)
        exact (inTarget_succ_of_inside here).mpr (stays later (by omega) (by omega))

theorem SegmentOpen.inTarget (inSegment : source.SegmentOpen position) :
    source.InTarget position := by
  obtain ⟨left, last, opened, after, before, inTarget, _kind, _open⟩ := inSegment
  exact inTarget.until (by omega) fun between notBefore within =>
    last.2.2 between (by omega) within

theorem Current.inTarget {sourceLine : Int} (current : source.Current position sourceLine) :
    source.InTarget position := by
  obtain ⟨left, last, directive, before, after, inTarget, _rest⟩ := current
  exact inTarget.until (by omega) fun between notBefore within =>
    last.2.2 between (by omega) within

theorem not_segmentOpen_of_leaves (leaves : source.Leaves position) :
    ¬ source.SegmentOpen (position + 1) := by
  rintro ⟨left, last, opened, after, before, _rest⟩
  have same := last.unique (lastLeft_succ_of_leaves leaves)
  omega

theorem not_current_of_leaves (leaves : source.Leaves position) (sourceLine : Int) :
    ¬ source.Current (position + 1) sourceLine := by
  rintro ⟨left, last, directive, before, after, _rest⟩
  have same := last.unique (lastLeft_succ_of_leaves leaves)
  omega

theorem segmentOpen_succ_iff (stays : ¬ source.Leaves position) (positive : 0 < position) :
    source.SegmentOpen (position + 1) ↔
      source.InTarget position ∧ source.kindAt? position = some .segmentOpen ∨
      source.kindAt? position ≠ some .segmentClose ∧ source.SegmentOpen position := by
  constructor
  · rintro ⟨left, last, opened, after, before, inTarget, kind, unclosed⟩
    rw [lastLeft_succ_iff stays positive] at last
    by_cases same : opened = position
    · rw [← same]
      exact Or.inl ⟨inTarget, kind⟩
    · refine Or.inr ⟨unclosed position (by omega) (by omega), left, last, opened, after, by omega,
        inTarget, kind, ?_⟩
      exact fun later after within => unclosed later after (by omega)
  · rintro (⟨inTarget, kind⟩ | ⟨other, left, last, opened, after, before, inTarget, kind, unclosed⟩)
    · obtain ⟨left, last⟩ := source.exists_lastLeft position
      have before := ((lastLeft_succ_iff stays positive left).mp last).1
      exact ⟨left, last, position, before, by omega, inTarget, kind, by omega⟩
    · refine ⟨left, (lastLeft_succ_iff stays positive left).mpr last, opened, after, by omega, inTarget,
        kind, ?_⟩
      intro later afterwards within
      by_cases same : later = position
      · rw [same]
        exact other
      · exact unclosed later afterwards (by omega)

/-- What a directive at a position makes current. -/
def Starts (source : Source) (position : Nat) (sourceLine : Int) : Prop :=
  source.InTarget position ∧ source.Announces position sourceLine ∧ 1 ≤ sourceLine ∧
    sourceLine ≤ source.target.lineCount ∧
    ∀ earlier < position, ¬ source.Collected earlier sourceLine

theorem current_succ_iff (stays : ¬ source.Leaves position) (positive : 0 < position)
    (sourceLine : Int) :
    source.Current (position + 1) sourceLine ↔
      source.Starts position sourceLine ∨
      ¬ (source.InTarget position ∧ source.Decides position) ∧
        source.Current position sourceLine := by
  constructor
  · rintro ⟨left, last, directive, before, after, inTarget, announces, least, most, undecided,
      uncollected⟩
    rw [lastLeft_succ_iff stays positive] at last
    by_cases same : directive = position
    · subst same
      exact Or.inl ⟨inTarget, announces, least, most, uncollected⟩
    · refine Or.inr ⟨fun both => undecided position (by omega) (by omega) both.1 both.2, left, last,
        directive, by omega, after, inTarget, announces, least, most, ?_, uncollected⟩
      exact fun later after within => undecided later after (by omega)
  · rintro (⟨inTarget, announces, least, most, uncollected⟩ | ⟨other, left, last, directive, before,
      after, inTarget, announces, least, most, undecided, uncollected⟩)
    · obtain ⟨left, last⟩ := source.exists_lastLeft position
      have before := ((lastLeft_succ_iff stays positive left).mp last).1
      exact ⟨left, last, position, by omega, before, inTarget, announces, least, most, by omega,
        uncollected⟩
    · refine ⟨left, (lastLeft_succ_iff stays positive left).mpr last, directive, by omega, after,
        inTarget, announces, least, most, ?_, uncollected⟩
      intro later afterwards within inTargetLater decides
      by_cases same : later = position
      · rw [same] at inTargetLater decides
        exact other ⟨inTargetLater, decides⟩
      · exact undecided later afterwards (by omega) inTargetLater decides

end Source

end ListingAtlas.Listing
