import ListingAtlas.Listing.Msvc
import ListingAtlas.Proofs.Listing.Step

/-!
What can be relied on while a listing is read, whatever its lines are. A source line is current only
in the target and only if the source has it, and every block holds instructions. Blocks grow at
their ends, new ones behind the others; and since a directive is heeded only for a line that has no
block yet, a block is finished as soon as another line is current, or none.
-/

namespace ListingAtlas.Listing

/-! ### Lines in turn -/

/-- Lines are read one after another without failure, each told to stand at some position. -/
inductive Fed (dialect : Dialect) (target : Target) : State → List String → State → Prop
  | done (state : State) : Fed dialect target state [] state
  | next {state middle last : State} {line : String} {lines : List String} (position : Int)
      (read : step dialect target state position line = .ok middle)
      (rest : Fed dialect target middle lines last) :
      Fed dialect target state (line :: lines) last

section

variable {dialect : Dialect} {target : Target} {state last : State} {lines : List String}

theorem fed_of_run {position : Int} (ran : run dialect target state position lines = .ok last) :
    Fed dialect target state lines last := by
  induction lines generalizing state position with
  | nil =>
      rw [run, Except.ok.injEq] at ran
      rw [ran]
      exact .done last
  | cons line lines ih =>
      rw [run] at ran
      cases read : step dialect target state position line with
      | error failure =>
          rw [read] at ran
          cases ran
      | ok middle =>
          rw [read] at ran
          exact .next position read (ih ran)

/-- What each of some lines preserves is preserved by all of them. -/
theorem Fed.preserves {holds : State → Prop} (fed : Fed dialect target state lines last)
    (step : ∀ {line before after}, line ∈ lines →
      Stepped dialect target line before after → holds before → holds after)
    (here : holds state) : holds last := by
  induction fed with
  | done state => exact here
  | next position read rest ih =>
      apply ih
      · exact fun member => step (List.mem_cons_of_mem _ member)
      · exact step List.mem_cons_self (stepped_of_step read) here

end

/-! ### What holds of every state -/

/-- Whatever is known belongs to the target: an open segment, the current line, which the source
has, and the blocks, each with an instruction or more for a line of the source. -/
structure State.Sound (dialect : Dialect) (target : Target) (state : State) : Prop where
  inSegment : state.inSegment = true → state.inTarget = true
  current : ∀ sourceLine, state.current = some sourceLine →
    state.inTarget = true ∧ 1 ≤ sourceLine ∧ sourceLine ≤ target.lineCount
  block : ∀ sourceLine block, state.blocks.get? sourceLine = some block →
    (1 ≤ sourceLine ∧ sourceLine ≤ target.lineCount) ∧
      block ≠ [] ∧ ∀ line ∈ block, dialect.classify line = .instruction

theorem State.sound_initial (dialect : Dialect) (target : Target) :
    State.initial.Sound dialect target where
  inSegment closed := nomatch closed
  current _ none := nomatch none
  block _ _ none := nomatch none

/-- What a block holds is the new line or was in it before. -/
theorem Blocks.mem_append {blocks : Blocks} {sourceLine other : Int} {line one : String}
    {block : List String} (found : (blocks.append sourceLine line).get? other = some block)
    (member : one ∈ block) :
    one = line ∨ ∃ earlier, blocks.get? other = some earlier ∧ one ∈ earlier := by
  rw [Blocks.get?_append] at found
  split at found
  · rename_i same
    rw [← Option.some.inj found, List.mem_append, List.mem_singleton] at member
    rcases member with before | new
    · right
      rw [same]
      cases known : blocks.get? sourceLine with
      | none =>
          rw [known] at before
          cases before
      | some earlier =>
          rw [known] at before
          exact ⟨earlier, rfl, before⟩
    · exact Or.inl new
  · exact Or.inr ⟨block, found, member⟩

theorem Stepped.sound {dialect : Dialect} {target : Target} {line : String} {state next : State}
    (stepped : Stepped dialect target line state next) (sound : state.Sound dialect target) :
    next.Sound dialect target := by
  have idle {sourceLine : Int} {known : Prop} (nowhere : none = some sourceLine) : known := by
    cases nowhere
  cases stepped with
  | enter kind names =>
      exact ⟨fun _open => rfl, fun other current => ⟨rfl, (sound.current other current).2⟩,
        sound.block⟩
  | leave kind other => exact ⟨(nomatch ·), fun _line => idle, sound.block⟩
  | outside kind out => exact sound
  | openSegment kind inside => exact ⟨fun _open => inside, sound.current, sound.block⟩
  | closeSegment kind inside => exact ⟨fun _closed => inside, fun _line => idle, sound.block⟩
  | announce kind inside token found numeral short =>
      refine ⟨sound.inSegment, fun other announced => ?_, sound.block⟩
      obtain ⟨_number, first, last, _unknown⟩ := announcedLine_eq_some_iff.mp announced
      exact ⟨inside, first, last⟩
  | unindent kind inside => exact ⟨sound.inSegment, fun _line => idle, sound.block⟩
  | collect kind inside inSegment sourceLine current =>
      refine ⟨sound.inSegment, sound.current, fun other block found => ?_⟩
      have instructions : ∀ one ∈ block, dialect.classify one = .instruction := by
        intro one member
        rcases Blocks.mem_append found member with rfl | ⟨earlier, before, among⟩
        · exact kind
        · exact (sound.block other earlier before).2.2 one among
      rw [Blocks.get?_append] at found
      split at found
      · rename_i same
        rw [Option.some.injEq] at found
        subst same found
        exact ⟨(sound.current other current).2, by simp, instructions⟩
      · obtain ⟨within, nonempty, _instructions⟩ := sound.block other block found
        exact ⟨within, nonempty, instructions⟩
  | drop kind inside idle => exact sound
  | ignore kind inside => exact sound

theorem Fed.sound {dialect : Dialect} {target : Target} {state last : State} {lines : List String}
    (fed : Fed dialect target state lines last) (sound : state.Sound dialect target) :
    last.Sound dialect target :=
  fed.preserves (fun _member stepped before => stepped.sound before) sound

/-! ### How blocks grow -/

/-- How a later state goes on from a state: all keys stay in front of new ones, no block loses
anything or has anything put in but at its end, and a block whose line is not current is finished,
so that its line will never be current again. -/
structure State.GrowsInto (state later : State) : Prop where
  keys : state.blocks.keys <+: later.blocks.keys
  block : ∀ sourceLine block, state.blocks.get? sourceLine = some block →
    ∃ grown, later.blocks.get? sourceLine = some grown ∧ block <+: grown
  finished : ∀ sourceLine block, state.blocks.get? sourceLine = some block →
    state.current ≠ some sourceLine →
      later.blocks.get? sourceLine = some block ∧ later.current ≠ some sourceLine

/-- Where the blocks stay as they are, only lines without a block may become current. -/
theorem State.growsInto_of_blocks {state later : State} (blocks : later.blocks = state.blocks)
    (current : ∀ sourceLine, later.current = some sourceLine →
      state.current = some sourceLine ∨ state.blocks.get? sourceLine = none) :
    state.GrowsInto later where
  keys := blocks ▸ List.prefix_refl _
  block sourceLine block found := ⟨block, by rw [blocks]; exact found, List.prefix_refl block⟩
  finished sourceLine block found other := by
    refine ⟨by rw [blocks]; exact found, fun now => ?_⟩
    rcases current sourceLine now with before | unknown
    · exact other before
    · rw [found] at unknown
      cases unknown

theorem State.growsInto_refl (state : State) : state.GrowsInto state :=
  growsInto_of_blocks rfl fun _sourceLine => Or.inl

theorem State.GrowsInto.trans {state middle later : State} (first : state.GrowsInto middle)
    (second : middle.GrowsInto later) : state.GrowsInto later where
  keys := first.keys.trans second.keys
  block sourceLine block found := by
    obtain ⟨grown, known, more⟩ := first.block sourceLine block found
    obtain ⟨whole, atLast, further⟩ := second.block sourceLine grown known
    exact ⟨whole, atLast, more.trans further⟩
  finished sourceLine block found other := by
    obtain ⟨kept, still⟩ := first.finished sourceLine block found other
    exact second.finished sourceLine block kept still

theorem Blocks.keys_prefix_append (blocks : Blocks) (sourceLine : Int) (line : String) :
    blocks.keys <+: (blocks.append sourceLine line).keys := by
  rw [Blocks.append, Table.keys_insert]
  split
  · exact List.prefix_refl _
  · exact List.prefix_append _ _

/-- An instruction is put at the end of the block of the current line. -/
theorem State.growsInto_append {state : State} {sourceLine : Int}
    (current : state.current = some sourceLine) (line : String) :
    state.GrowsInto { state with blocks := state.blocks.append sourceLine line } where
  keys := state.blocks.keys_prefix_append sourceLine line
  block other block found := by
    rw [Blocks.get?_append]
    split
    · rename_i same
      rw [same] at found
      exact ⟨_, rfl, by simp [found]⟩
    · exact ⟨block, found, List.prefix_refl block⟩
  finished other block found notCurrent := by
    have different : other ≠ sourceLine := by
      rintro rfl
      exact notCurrent current
    rw [Blocks.get?_append, if_neg different]
    exact ⟨found, notCurrent⟩

theorem Stepped.growsInto {dialect : Dialect} {target : Target} {line : String}
    {state next : State} (stepped : Stepped dialect target line state next) :
    state.GrowsInto next := by
  cases stepped with
  | enter => exact State.growsInto_of_blocks rfl fun _line => Or.inl
  | leave => exact State.growsInto_of_blocks rfl fun _line none => nomatch none
  | outside => exact state.growsInto_refl
  | openSegment => exact State.growsInto_of_blocks rfl fun _line => Or.inl
  | closeSegment => exact State.growsInto_of_blocks rfl fun _line none => nomatch none
  | announce =>
      exact State.growsInto_of_blocks rfl fun _line announced =>
        Or.inr (announcedLine_eq_some_iff.mp announced).2.2.2
  | unindent => exact State.growsInto_of_blocks rfl fun _line none => nomatch none
  | collect kind inside inSegment sourceLine current => exact State.growsInto_append current line
  | drop => exact state.growsInto_refl
  | ignore => exact state.growsInto_refl

theorem Fed.growsInto {dialect : Dialect} {target : Target} {state later : State}
    {lines : List String} (fed : Fed dialect target state lines later) : state.GrowsInto later :=
  fed.preserves (fun _member stepped before => before.trans stepped.growsInto) state.growsInto_refl

/-- After any lines that are read from the start, what is known is sound; and whatever lines follow,
the blocks grow at their ends alone, and a block whose line is not current stays as it is. -/
theorem blocks_sound_and_growing {dialect : Dialect} {target : Target} {state : State}
    {lines : List String} (fed : Fed dialect target State.initial lines state) :
    state.Sound dialect target ∧
      ∀ more later, Fed dialect target state more later → state.GrowsInto later :=
  ⟨fed.sound (State.sound_initial dialect target), fun _more _later further => further.growsInto⟩

/-- A line that is announced again when another one is current: its block was finished. -/
theorem blocks_sound_and_growing_announced_again :
    let target : Target := { path := "a.c", lineCount := 3 }
    let lines := ["; File a.c", "_TEXT SEGMENT", "; 2 : x", "\tmov eax", "; 1 : y"]
    let more := ["\tpop ebp", "; 2 : x", "\tnop", "; 3 : z", "\tret"]
    ∃ state later, Fed Msvc.dialect target State.initial lines state ∧
      Fed Msvc.dialect target state more later ∧ state.Sound Msvc.dialect target ∧
      later.blocks.get? 2 = some ["\tmov eax"] ∧ later.current ≠ some 2 := by
  intro target lines more
  have read : ((run Msvc.dialect target State.initial 1 lines).toOption.map fun state =>
      (state.current, state.blocks.items)) = some (some 1, [(2, ["\tmov eax"])]) := by
    decide +kernel
  have readOn : ((run Msvc.dialect target State.initial 1 lines).bind fun state =>
      run Msvc.dialect target state 6 more).toOption.isSome = true := by
    decide +kernel
  cases first : run Msvc.dialect target State.initial 1 lines with
  | error failure =>
      rw [first] at read
      cases read
  | ok state =>
      rw [first] at read readOn
      have known : (state.current, state.blocks.items) = (some 1, [(2, ["\tmov eax"])]) :=
        Option.some.inj read
      obtain ⟨current, items⟩ := Prod.mk.inj known
      cases second : run Msvc.dialect target state 6 more with
      | error failure =>
          simp only [Except.bind, second] at readOn
          cases readOn
      | ok later =>
          have fed := fed_of_run first
          have further := fed_of_run second
          obtain ⟨sound, growing⟩ := blocks_sound_and_growing fed
          have found : state.blocks.get? 2 = some ["\tmov eax"] := by
            rw [Table.get?_eq_some_iff, items]
            exact List.mem_singleton_self _
          have other : state.current ≠ some 2 := by
            rw [current]
            decide
          exact ⟨state, later, fed, further, sound,
            (growing more later further).finished 2 ["\tmov eax"] found other⟩

end ListingAtlas.Listing
