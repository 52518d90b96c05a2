import ListingAtlas.Proofs.Listing.Collection
import ListingAtlas.Proofs.Listing.Growth
import ListingAtlas.Proofs.Outcome

/-!
What is known after a part of a listing, against what its positions say. Every kind of line keeps
the two in step, and so does a whole listing.
-/

namespace ListingAtlas.Listing

/-- A state tells of the next position what looking back from there tells, and holds what is
collected before it. -/
structure Read (source : Source) (count : Nat) (state : State) : Prop where
  inTarget : state.inTarget = true ↔ source.InTarget (count + 1)
  inSegment : state.inSegment = true ↔ source.SegmentOpen (count + 1)
  current : ∀ sourceLine, state.current = some sourceLine ↔ source.Current (count + 1) sourceLine
  gathered : Gathered source count state.blocks

theorem Source.lineAt?_of_parts {source : Source} {before rest : List String} {line : String}
    (parts : before ++ line :: rest = source.lines) :
    source.lineAt? (before.length + 1) = some line := by
  rw [lineAt?, ← parts, List.getElem?_append_right (Nat.le_refl _), Nat.sub_self]
  rfl

theorem Source.kindAt?_of_lineAt? {source : Source} {position : Nat} {line : String}
    (atLine : source.lineAt? position = some line) :
    source.kindAt? position = some (source.dialect.classify line) := by
  rw [kindAt?, atLine, Option.map_some]

theorem Source.not_collected_zero (source : Source) (sourceLine : Int) :
    ¬ source.Collected 0 sourceLine := by
  intro collected
  have kind := ((source.collected_iff 0 sourceLine).mp collected).1
  rw [kindAt?_zero] at kind
  cases kind

theorem Source.not_inTarget_one (source : Source) : ¬ source.InTarget 1 := by
  rintro ⟨directive, before, enters, _last⟩
  have zero : directive = 0 := by omega
  have kind := enters.1
  rw [zero, kindAt?_zero] at kind
  cases kind

theorem read_initial (source : Source) : Read source 0 State.initial where
  inTarget := by
    constructor
    · intro inside
      cases inside
    · exact fun inside => absurd inside source.not_inTarget_one
  inSegment := by
    constructor
    · intro inside
      cases inside
    · exact fun inSegment => absurd inSegment.inTarget source.not_inTarget_one
  current := by
    intro sourceLine
    constructor
    · intro current
      cases current
    · exact fun current => absurd current.inTarget source.not_inTarget_one
  gathered :=
    { block := by
        intro sourceLine
        refine ⟨[], List.Pairwise.nil, ?_, rfl⟩
        intro position
        constructor
        · intro member
          cases member
        · rintro ⟨within, collected⟩
          rw [Nat.le_zero.mp within] at collected
          exact absurd collected (source.not_collected_zero sourceLine)
      present := by
        intro sourceLine
        constructor
        · intro member
          cases member
        · rintro ⟨position, within, collected⟩
          rw [Nat.le_zero.mp within] at collected
          exact absurd collected (source.not_collected_zero sourceLine)
      order := List.Pairwise.nil }

/-! ### Each kind of line -/

section

variable {source : Source} {count : Nat} {state : State} {line : String}

theorem Read.enter (read : Read source count state)
    (atLine : source.lineAt? (count + 1) = some line)
    (kind : source.dialect.classify line = .fileDirective)
    (names : source.dialect.namesFile line source.target.path = true) :
    Read source (count + 1) { state with inTarget := true } := by
  have here := Source.kindAt?_of_lineAt? atLine
  rw [kind] at here
  have enters : source.Enters (count + 1) := ⟨here, line, atLine, names⟩
  have stays := Source.not_leaves_of_enters enters
  refine ⟨?_, ?_, ?_, ?_⟩
  · rw [Source.inTarget_succ_iff]
    exact ⟨fun _inside => Or.inl enters, fun _inside => rfl⟩
  · rw [Source.segmentOpen_succ_of_other here stays (Nat.succ_pos _) (by simp) (by simp)]
    exact read.inSegment
  · intro sourceLine
    have undecided := Source.not_decides_of_kind here (by simp) (by simp) (by simp)
    rw [Source.current_succ_of_undecided stays (Nat.succ_pos _) undecided]
    exact read.current sourceLine
  · exact read.gathered.skip (Source.not_collected_of_kind here (by simp))

theorem Read.leave (read : Read source count state)
    (atLine : source.lineAt? (count + 1) = some line)
    (kind : source.dialect.classify line = .fileDirective)
    (other : source.dialect.namesFile line source.target.path = false) :
    Read source (count + 1)
      { state with inTarget := false, inSegment := false, current := none } := by
  have here := Source.kindAt?_of_lineAt? atLine
  rw [kind] at here
  have leaves : source.Leaves (count + 1) := ⟨here, line, atLine, other⟩
  have notInTarget : ¬ source.InTarget (count + 1 + 1) := by
    rw [Source.inTarget_succ_iff]
    rintro (⟨_kind, found, atFound, names⟩ | ⟨noDirective, _inside⟩)
    · rw [atLine, Option.some.injEq] at atFound
      rw [← atFound, other] at names
      cases names
    · exact noDirective here
  refine ⟨?_, ?_, ?_, ?_⟩
  · simpa using notInTarget
  · simpa using Source.not_segmentOpen_of_leaves leaves
  · intro sourceLine
    simpa using Source.not_current_of_leaves leaves sourceLine
  · exact read.gathered.skip (Source.not_collected_of_kind here (by simp))

/-- Out of the target, a line other than a file directive changes nothing. -/
theorem Read.outside (read : Read source count state)
    (atLine : source.lineAt? (count + 1) = some line)
    (ordinary : source.dialect.classify line ≠ .fileDirective) (out : state.inTarget = false) :
    Read source (count + 1) state := by
  have here := Source.kindAt?_of_lineAt? atLine
  have before : ¬ source.InTarget (count + 1) := by
    rw [← read.inTarget, out]
    simp
  have after : ¬ source.InTarget (count + 1 + 1) := by
    rw [Source.inTarget_succ_of_kind here ordinary]
    exact before
  refine ⟨?_, ?_, ?_, ?_⟩
  · rw [out]
    simpa using after
  · rw [read.inSegment]
    exact ⟨fun now => absurd now.inTarget before, fun next => absurd next.inTarget after⟩
  · intro sourceLine
    rw [read.current]
    exact ⟨fun now => absurd now.inTarget before, fun next => absurd next.inTarget after⟩
  · apply read.gathered.skip
    intro sourceLine collected
    exact before ((source.collected_iff _ _).mp collected).2.1

/-- What a directive in the target makes current is what it is told to announce. -/
theorem Read.announced_iff (read : Read source count state)
    (atLine : source.lineAt? (count + 1) = some line)
    (kind : source.dialect.classify line = .lineDirective) (inside : state.inTarget = true)
    {token : String} (found : source.dialect.lineToken? line = some token) (sourceLine : Int) :
    announcedLine source.target state.blocks (Text.numberOf token.toList) = some sourceLine ↔
      source.Starts (count + 1) sourceLine := by
  have here := Source.kindAt?_of_lineAt? atLine
  rw [kind] at here
  have announces (number : Int) : source.Announces (count + 1) number ↔
      Text.numberOf token.toList = number := by
    constructor
    · rintro ⟨_kind, other, otherToken, atOther, otherFound, value⟩
      rw [atLine, Option.some.injEq] at atOther
      rw [← atOther, found, Option.some.injEq] at otherFound
      rw [otherFound]
      exact value
    · exact fun value => ⟨here, line, token, atLine, found, value⟩
  have fresh (number : Int) : state.blocks.get? number = none ↔
      ∀ earlier < count + 1, ¬ source.Collected earlier number := by
    rw [← Option.not_isSome_iff_eq_none, Table.get?_isSome_iff, read.gathered.present]
    constructor
    · exact fun none earlier before collected => none ⟨earlier, by omega, collected⟩
    · rintro none ⟨earlier, within, collected⟩
      exact none earlier (by omega) collected
  rw [announcedLine_eq_some_iff, Source.Starts, announces, fresh]
  exact ⟨fun announced => ⟨read.inTarget.mp inside, announced⟩, And.right⟩

theorem Read.openSegment (read : Read source count state)
    (atLine : source.lineAt? (count + 1) = some line)
    (kind : source.dialect.classify line = .segmentOpen) (inside : state.inTarget = true) :
    Read source (count + 1) { state with inSegment := true } := by
  have here := Source.kindAt?_of_lineAt? atLine
  rw [kind] at here
  have stays := Source.not_leaves_of_kind here (by simp)
  refine ⟨?_, ?_, ?_, ?_⟩
  · rw [Source.inTarget_succ_of_kind here (by simp)]
    exact read.inTarget
  · rw [Source.segmentOpen_succ_iff stays (Nat.succ_pos _)]
    exact ⟨fun _open => Or.inl ⟨read.inTarget.mp inside, here⟩, fun _open => rfl⟩
  · intro sourceLine
    have undecided := Source.not_decides_of_kind here (by simp) (by simp) (by simp)
    rw [Source.current_succ_of_undecided stays (Nat.succ_pos _) undecided]
    exact read.current sourceLine
  · exact read.gathered.skip (Source.not_collected_of_kind here (by simp))

theorem Read.closeSegment (read : Read source count state)
    (atLine : source.lineAt? (count + 1) = some line)
    (kind : source.dialect.classify line = .segmentClose) (inside : state.inTarget = true) :
    Read source (count + 1) { state with inSegment := false, current := none } := by
  have here := Source.kindAt?_of_lineAt? atLine
  rw [kind] at here
  have stays := Source.not_leaves_of_kind here (by simp)
  refine ⟨?_, ?_, ?_, ?_⟩
  · rw [Source.inTarget_succ_of_kind here (by simp)]
    exact read.inTarget
  · rw [Source.segmentOpen_succ_iff stays (Nat.succ_pos _), here]
    simp
  · intro sourceLine
    have decides : source.Decides (count + 1) := Or.inr (Or.inl here)
    have notStarted : ¬ source.Starts (count + 1) sourceLine := by
      intro starts
      have announced := starts.2.1.1
      rw [here] at announced
      cases announced
    rw [Source.current_succ_iff stays (Nat.succ_pos _)]
    simp [notStarted, decides, read.inTarget.mp inside]
  · exact read.gathered.skip (Source.not_collected_of_kind here (by simp))

theorem Read.announce (read : Read source count state)
    (atLine : source.lineAt? (count + 1) = some line)
    (kind : source.dialect.classify line = .lineDirective) (inside : state.inTarget = true)
    {token : String} (found : source.dialect.lineToken? line = some token) :
    Read source (count + 1)
      { state with
        current := announcedLine source.target state.blocks (Text.numberOf token.toList) } := by
  have here := Source.kindAt?_of_lineAt? atLine
  rw [kind] at here
  have stays := Source.not_leaves_of_kind here (by simp)
  refine ⟨?_, ?_, ?_, ?_⟩
  · rw [Source.inTarget_succ_of_kind here (by simp)]
    exact read.inTarget
  · rw [Source.segmentOpen_succ_of_other here stays (Nat.succ_pos _) (by simp) (by simp)]
    exact read.inSegment
  · intro sourceLine
    have decides : source.Decides (count + 1) := Or.inl here
    rw [Source.current_succ_iff stays (Nat.succ_pos _),
      read.announced_iff atLine kind inside found]
    simp [decides, read.inTarget.mp inside]
  · exact read.gathered.skip (Source.not_collected_of_kind here (by simp))

theorem Read.unindent (read : Read source count state)
    (atLine : source.lineAt? (count + 1) = some line)
    (kind : source.dialect.classify line = .unindented) (inside : state.inTarget = true) :
    Read source (count + 1) { state with current := none } := by
  have here := Source.kindAt?_of_lineAt? atLine
  rw [kind] at here
  have stays := Source.not_leaves_of_kind here (by simp)
  refine ⟨?_, ?_, ?_, ?_⟩
  · rw [Source.inTarget_succ_of_kind here (by simp)]
    exact read.inTarget
  · rw [Source.segmentOpen_succ_of_other here stays (Nat.succ_pos _) (by simp) (by simp)]
    exact read.inSegment
  · intro sourceLine
    have decides : source.Decides (count + 1) := Or.inr (Or.inr here)
    have notStarted : ¬ source.Starts (count + 1) sourceLine := by
      intro starts
      have announced := starts.2.1.1
      rw [here] at announced
      cases announced
    rw [Source.current_succ_iff stays (Nat.succ_pos _)]
    simp [notStarted, decides, read.inTarget.mp inside]
  · exact read.gathered.skip (Source.not_collected_of_kind here (by simp))

/-- Lines that decide nothing leave the three things known as they are. -/
theorem Read.stay (read : Read source count state)
    (atLine : source.lineAt? (count + 1) = some line)
    (kind : source.dialect.classify line = .instruction ∨
      source.dialect.classify line = .comment ∨ source.dialect.classify line = .blank)
    {blocks : Blocks} (gathered : Gathered source (count + 1) blocks) :
    Read source (count + 1) { state with blocks := blocks } := by
  have here := Source.kindAt?_of_lineAt? atLine
  have stays : ¬ source.Leaves (count + 1) := by
    apply Source.not_leaves_of_kind here
    rcases kind with kind | kind | kind <;> simp [kind]
  have undecided : ¬ source.Decides (count + 1) := by
    apply Source.not_decides_of_kind here <;> rcases kind with kind | kind | kind <;> simp [kind]
  refine ⟨?_, ?_, ?_, gathered⟩
  · rw [Source.inTarget_succ_of_kind here]
    · exact read.inTarget
    · rcases kind with kind | kind | kind <;> simp [kind]
  · rw [Source.segmentOpen_succ_of_other here stays (Nat.succ_pos _)]
    · exact read.inSegment
    · rcases kind with kind | kind | kind <;> simp [kind]
    · rcases kind with kind | kind | kind <;> simp [kind]
  · intro sourceLine
    rw [Source.current_succ_of_undecided stays (Nat.succ_pos _) undecided]
    exact read.current sourceLine

theorem Read.collect (read : Read source count state)
    (atLine : source.lineAt? (count + 1) = some line)
    (kind : source.dialect.classify line = .instruction) (inside : state.inTarget = true)
    (inSegment : state.inSegment = true) {sourceLine : Int}
    (current : state.current = some sourceLine) :
    Read source (count + 1) { state with blocks := state.blocks.append sourceLine line } := by
  apply read.stay atLine (Or.inl kind)
  apply read.gathered.collect atLine
  intro other
  have here := Source.kindAt?_of_lineAt? atLine
  rw [kind] at here
  rw [source.collected_iff, ← read.inTarget, ← read.inSegment, ← read.current, current]
  constructor
  · rintro ⟨_kind, _inside, _inSegment, same⟩
    exact (Option.some.inj same).symm
  · intro same
    exact ⟨here, inside, inSegment, by rw [same]⟩

theorem Read.drop (read : Read source count state)
    (atLine : source.lineAt? (count + 1) = some line)
    (kind : source.dialect.classify line = .instruction)
    (idle : state.inSegment = false ∨ state.current = none) :
    Read source (count + 1) state := by
  apply read.stay atLine (Or.inl kind)
  apply read.gathered.skip
  intro sourceLine collected
  rw [source.collected_iff, ← read.inSegment, ← read.current] at collected
  obtain ⟨_kind, _inside, inSegment, current⟩ := collected
  rcases idle with closed | unknown
  · rw [closed] at inSegment
    cases inSegment
  · rw [unknown] at current
    cases current

/-- One line keeps what is known in step with the positions. -/
theorem Read.step {next : State} (read : Read source count state)
    (atLine : source.lineAt? (count + 1) = some line)
    (stepped : Stepped source.dialect source.target line state next) :
    Read source (count + 1) next := by
  cases stepped with
  | enter kind names => exact read.enter atLine kind names
  | leave kind other => exact read.leave atLine kind other
  | outside ordinary out => exact read.outside atLine ordinary out
  | openSegment kind inside => exact read.openSegment atLine kind inside
  | closeSegment kind inside => exact read.closeSegment atLine kind inside
  | announce kind inside token found numeral short => exact read.announce atLine kind inside found
  | unindent kind inside => exact read.unindent atLine kind inside
  | collect kind inside inSegment sourceLine current =>
      exact read.collect atLine kind inside inSegment current
  | drop kind inside idle => exact read.drop atLine kind idle
  | ignore kind inside =>
      apply read.stay atLine (Or.inr kind)
      apply read.gathered.skip
      have here := Source.kindAt?_of_lineAt? atLine
      apply Source.not_collected_of_kind here
      rcases kind with kind | kind <;> simp [kind]

end

/-! ### A whole listing -/

/-- Reading the rest of a listing, from any position on. -/
theorem Read.run {source : Source} {before rest : List String} {state final : State}
    (read : Read source before.length state) (parts : before ++ rest = source.lines)
    {position : Int}
    (ran : Listing.run source.dialect source.target state position rest = .ok final) :
    Read source source.lines.length final := by
  induction rest generalizing before state position with
  | nil =>
      rw [Listing.run, Except.ok.injEq] at ran
      rw [← ran, ← parts, List.append_nil]
      exact read
  | cons line rest ih =>
      rw [Listing.run] at ran
      cases stepped : Listing.step source.dialect source.target state position line with
      | error failure =>
          rw [stepped] at ran
          cases ran
      | ok next =>
          rw [stepped] at ran
          have after := read.step (Source.lineAt?_of_parts parts) (stepped_of_step stepped)
          have counted : before.length + 1 = (before ++ [line]).length := by
            rw [List.length_append, List.length_singleton]
          rw [counted] at after
          exact ih after ((List.append_cons before line rest).symm.trans parts) ran

theorem gathered_of_blocksOfLines {source : Source} {blocks : Blocks}
    (attributed : blocksOfLines source.dialect source.target source.lines = .ok blocks) :
    Gathered source source.lines.length blocks := by
  unfold blocksOfLines at attributed
  cases ran : Listing.run source.dialect source.target State.initial 1 source.lines with
  | error failure =>
      rw [ran] at attributed
      cases attributed
  | ok final =>
      rw [ran, Except.map, Except.ok.injEq] at attributed
      rw [← attributed]
      have start : Read source ([] : List String).length State.initial := read_initial source
      exact (start.run rfl ran).gathered

/-- Only lines that the source has are given blocks. -/
theorem keys_within {dialect : Dialect} {target : Target} {lines : List String} {blocks : Blocks}
    (attributed : blocksOfLines dialect target lines = .ok blocks) {sourceLine : Int}
    (member : sourceLine ∈ blocks.keys) : 1 ≤ sourceLine ∧ sourceLine ≤ target.lineCount := by
  obtain ⟨last, ran, rfl⟩ := map_eq_ok_iff.mp attributed
  obtain ⟨block, found⟩ := Option.isSome_iff_exists.mp ((Table.get?_isSome_iff _ _).mpr member)
  have sound := (fed_of_run ran).sound (State.sound_initial dialect target)
  exact (sound.block sourceLine block found).1

theorem Source.within_of_collected {source : Source} {position : Nat} {sourceLine : Int}
    (collected : source.Collected position sourceLine) : position ≤ source.lines.length := by
  have kind := ((source.collected_iff position sourceLine).mp collected).1
  cases position with
  | zero => exact Nat.zero_le _
  | succ index =>
      obtain ⟨line, atLine, _kind⟩ := Option.map_eq_some_iff.mp kind
      obtain ⟨inRange, _value⟩ := List.getElem?_eq_some_iff.mp atLine
      exact inRange

/-- Where a listing can be attributed, its blocks are the collected lines: a block for each source
line for which some line is collected, its lines those collected in the order of the listing, and
the blocks in the order of their first lines. -/
theorem blocksOf_collects {dialect : Dialect} {target : Target} {listing : String}
    {blocks : Blocks} (attributed : blocksOf dialect target listing = .ok blocks) :
    let source : Source :=
      { dialect := dialect, target := target, lines := Text.linesAtFeeds listing }
    (∀ sourceLine, sourceLine ∈ blocks.keys ↔
      ∃ position, source.Collected position sourceLine) ∧
    (∀ sourceLine block, blocks.get? sourceLine = some block →
      ∃ positions : List Nat, positions.Pairwise (· < ·) ∧
        (∀ position, position ∈ positions ↔ source.Collected position sourceLine) ∧
        positions.map source.lineAt? = block.map some) ∧
    blocks.keys.Pairwise fun earlier later =>
      ∃ position, source.Collected position earlier ∧
        ∀ other, source.Collected other later → position < other := by
  intro source
  have gathered : Gathered source source.lines.length blocks :=
    gathered_of_blocksOfLines attributed
  refine ⟨?_, ?_, gathered.order⟩
  · intro sourceLine
    rw [gathered.present]
    constructor
    · rintro ⟨position, _within, collected⟩
      exact ⟨position, collected⟩
    · rintro ⟨position, collected⟩
      exact ⟨position, Source.within_of_collected collected, collected⟩
  · intro sourceLine block found
    obtain ⟨positions, ascending, members, texts⟩ := gathered.block sourceLine
    rw [found, Option.getD_some] at texts
    refine ⟨positions, ascending, ?_, texts⟩
    intro position
    rw [members]
    constructor
    · exact fun both => both.2
    · exact fun collected => ⟨Source.within_of_collected collected, collected⟩

/-- A listing that leaves its file and comes back, where a line is announced twice. -/
theorem blocksOf_collects_first_block :
    let target : Target := { path := "a.c", lineCount := 3 }
    let listing := "; File a.c\n_TEXT SEGMENT\n; 2 : x\n\tmov eax\n; 1 : y\n\tpop ebp\n" ++
      "; File b.c\n\tnop\n; File a.c\r\n_TEXT SEGMENT\n; 2 : x\n\tnop\n; 1 : y\n\tret\n"
    let source : Source :=
      { dialect := Msvc.dialect, target := target, lines := Text.linesAtFeeds listing }
    ∃ blocks, blocksOf Msvc.dialect target listing = .ok blocks ∧
      blocks.items = [(2, ["\tmov eax"]), (1, ["\tpop ebp"])] ∧
      ∃ position, source.Collected position 2 ∧
        ∀ other, source.Collected other 1 → position < other := by
  intro target listing source
  have read : (blocksOf Msvc.dialect target listing).toOption.map Table.items =
      some [(2, ["\tmov eax"]), (1, ["\tpop ebp"])] := by
    decide +kernel
  cases attributed : blocksOf Msvc.dialect target listing with
  | error failure =>
      rw [attributed] at read
      cases read
  | ok blocks =>
      rw [attributed] at read
      have items : blocks.items = [(2, ["\tmov eax"]), (1, ["\tpop ebp"])] := Option.some.inj read
      have order := (blocksOf_collects attributed).2.2
      rw [Table.keys, items] at order
      exact ⟨blocks, rfl, items, List.rel_of_pairwise_cons order (List.mem_singleton_self _)⟩

end ListingAtlas.Listing
