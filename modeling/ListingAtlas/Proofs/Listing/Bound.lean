import ListingAtlas.Proofs.Listing.Boundary

/-!
Listings read for a source with fewer lines. What is then collected is what would be collected for
the lines that are left: a directive for a line that the source has not makes no line current, so
nothing is kept for it, and the lines that the source has never learn of it.
-/

namespace ListingAtlas

/-! ### The part of a table with certain keys -/

namespace Table

variable {Key Value : Type} [DecidableEq Key]

/-- The items with the keys to keep, in the order that they had. -/
def keeping (keep : Key → Bool) (table : Table Key Value) : Table Key Value :=
  { items := table.items.filter fun item => keep item.1
    distinct := table.distinct.sublist (List.filter_sublist.map Prod.fst) }

omit [DecidableEq Key] in
theorem mem_keys_keeping (keep : Key → Bool) (table : Table Key Value) (key : Key) :
    key ∈ (table.keeping keep).keys ↔ key ∈ table.keys ∧ keep key = true := by
  constructor
  · intro member
    obtain ⟨item, kept, rfl⟩ := List.mem_map.mp member
    obtain ⟨present, kept⟩ := List.mem_filter.mp kept
    exact ⟨List.mem_map.mpr ⟨item, present, rfl⟩, kept⟩
  · rintro ⟨member, kept⟩
    obtain ⟨item, present, rfl⟩ := List.mem_map.mp member
    exact List.mem_map.mpr ⟨item, List.mem_filter.mpr ⟨present, kept⟩, rfl⟩

theorem get?_keeping (keep : Key → Bool) {key : Key} (kept : keep key = true)
    (table : Table Key Value) : (table.keeping keep).get? key = table.get? key := by
  have same (value : Value) : (table.keeping keep).get? key = some value ↔
      table.get? key = some value := by
    rw [get?_eq_some_iff, get?_eq_some_iff]
    change (key, value) ∈ table.items.filter _ ↔ _
    rw [List.mem_filter]
    exact ⟨And.left, fun member => ⟨member, kept⟩⟩
  exact Option.ext same

theorem keeping_insert (keep : Key → Bool) {key : Key} (kept : keep key = true)
    (table : Table Key Value) (value : Value) :
    (table.insert key value).keeping keep = (table.keeping keep).insert key value := by
  apply eq_of_items
  change (table.insert key value).items.filter _ = _
  by_cases present : key ∈ table.keys
  · have still : key ∈ (table.keeping keep).keys :=
      (mem_keys_keeping keep table key).mpr ⟨present, kept⟩
    rw [items_insert_of_mem present, items_insert_of_mem still, filter_replaceIn]
    rfl
  · have missing : key ∉ (table.keeping keep).keys := fun member =>
      present ((mem_keys_keeping keep table key).mp member).1
    rw [items_insert_of_not_mem present, items_insert_of_not_mem missing, List.filter_append]
    congr 1
    simp [kept]

theorem keeping_insert_dropped (keep : Key → Bool) {key : Key} (dropped : keep key = false)
    (table : Table Key Value) (value : Value) :
    (table.insert key value).keeping keep = table.keeping keep := by
  have notKept : ¬ keep key = true := by simp [dropped]
  apply eq_of_items
  change (table.insert key value).items.filter _ = table.items.filter _
  by_cases present : key ∈ table.keys
  · rw [items_insert_of_mem present, filter_replaceIn]
    apply replaceIn_of_not_mem
    intro member
    obtain ⟨item, kept, rfl⟩ := List.mem_map.mp member
    exact notKept (List.mem_filter.mp kept).2
  · rw [items_insert_of_not_mem present, List.filter_append]
    simp [dropped]

end Table

namespace Listing

/-! ### What a shorter source keeps -/

/-- The blocks of the lines up to a bound. -/
def Blocks.upTo (bound : Int) (blocks : Blocks) : Blocks :=
  blocks.keeping fun sourceLine => sourceLine ≤ bound

theorem Blocks.upTo_append {bound sourceLine : Int} (within : sourceLine ≤ bound)
    (blocks : Blocks) (line : String) :
    (blocks.append sourceLine line).upTo bound = (blocks.upTo bound).append sourceLine line := by
  have kept : decide (sourceLine ≤ bound) = true := decide_eq_true within
  unfold Blocks.append Blocks.upTo
  rw [Table.keeping_insert (fun sourceLine => decide (sourceLine ≤ bound)) kept,
    Table.get?_keeping (fun sourceLine => decide (sourceLine ≤ bound)) kept]

theorem Blocks.upTo_append_beyond {bound sourceLine : Int} (beyond : bound < sourceLine)
    (blocks : Blocks) (line : String) :
    (blocks.append sourceLine line).upTo bound = blocks.upTo bound := by
  have dropped : decide (sourceLine ≤ bound) = false := by
    rw [decide_eq_false_iff_not]
    omega
  exact Table.keeping_insert_dropped
    (fun sourceLine => decide (sourceLine ≤ bound)) dropped blocks _

theorem Blocks.contains_upTo {bound sourceLine : Int} (within : sourceLine ≤ bound)
    (blocks : Blocks) : (blocks.upTo bound).contains sourceLine = blocks.contains sourceLine := by
  have kept : decide (sourceLine ≤ bound) = true := decide_eq_true within
  unfold Blocks.upTo Table.contains
  rw [Table.get?_keeping (fun sourceLine => decide (sourceLine ≤ bound)) kept]

/-- A state without the blocks beyond a bound, and without a current line beyond it. -/
def State.upTo (bound : Int) (state : State) : State :=
  { state with
    current := state.current.filter fun sourceLine => sourceLine ≤ bound
    blocks := state.blocks.upTo bound }

def Target.withLines (target : Target) (lineCount : Int) : Target :=
  { target with lineCount }

/-- A line within the bound is announced alike, and one beyond it makes no line current. -/
theorem announcedLine_upTo {target : Target} {bound : Int} (fewer : bound ≤ target.lineCount)
    (blocks : Blocks) (number : Int) :
    announcedLine (target.withLines bound) (blocks.upTo bound) number =
      (announcedLine target blocks number).filter fun sourceLine => sourceLine ≤ bound := by
  unfold announcedLine Target.withLines
  by_cases within : number ≤ bound
  · have notBeyond : decide (bound < number) = false := by
      rw [decide_eq_false_iff_not]
      omega
    have notBeyondTarget : decide (target.lineCount < number) = false := by
      rw [decide_eq_false_iff_not]
      omega
    rw [Blocks.contains_upTo within, notBeyond, notBeyondTarget]
    split
    · rfl
    · simp [Option.filter, within]
  · have beyond : decide (bound < number) = true := by
      rw [decide_eq_true_eq]
      omega
    rw [beyond, Bool.or_true, Bool.true_or, if_pos rfl]
    split
    · rfl
    · simp [Option.filter, within]

/-! ### Reading with fewer lines -/

theorem Stepped.upTo {dialect : Dialect} {target : Target} {line : String} {state next : State}
    (stepped : Stepped dialect target line state next) {bound : Int}
    (fewer : bound ≤ target.lineCount) :
    Stepped dialect (target.withLines bound) line (state.upTo bound) (next.upTo bound) := by
  cases stepped with
  | enter kind names => exact .enter kind names
  | leave kind other => exact .leave kind other
  | outside kind out => exact .outside kind out
  | openSegment kind inside => exact .openSegment kind inside
  | closeSegment kind inside => exact .closeSegment kind inside
  | announce kind inside token found numeral short =>
      have announced := @Stepped.announce dialect (target.withLines bound) line (state.upTo bound)
        kind inside token found numeral short
      simp only [State.upTo, announcedLine_upTo fewer] at announced
      exact announced
  | unindent kind inside => exact .unindent kind inside
  | collect kind inside inSegment sourceLine current =>
      by_cases within : sourceLine ≤ bound
      · have still : (state.upTo bound).current = some sourceLine := by
          simp [State.upTo, current, within]
        have collected := @Stepped.collect dialect (target.withLines bound) line (state.upTo bound)
          kind inside inSegment sourceLine still
        simp only [State.upTo, ← Blocks.upTo_append within] at collected
        exact collected
      · have idle : (state.upTo bound).current = none := by
          simpa [State.upTo, current] using within
        have dropped := @Stepped.drop dialect (target.withLines bound) line (state.upTo bound)
          kind inside (Or.inr idle)
        simp only [State.upTo] at dropped ⊢
        rw [Blocks.upTo_append_beyond (by omega)]
        exact dropped
  | drop kind inside idle =>
      refine .drop kind inside ?_
      rcases idle with closed | unknown
      · exact Or.inl closed
      · right
        simp [State.upTo, unknown]
  | ignore kind inside => exact .ignore kind inside

theorem step_upTo {target : Target} {bound : Int} (fewer : bound ≤ target.lineCount)
    (dialect : Dialect) (state : State) (position : Int) (line : String) :
    step dialect (target.withLines bound) (state.upTo bound) position line =
      (step dialect target state position line).map (State.upTo bound) := by
  cases read : step dialect target state position line with
  | ok next => exact step_of_stepped ((stepped_of_step read).upTo fewer) position
  | error failure =>
      -- A failure goes by the position, the line and its token, which are the same.
      obtain ⟨inside, kind, token, found, failed⟩ := step_eq_error_iff.mp read
      exact step_eq_error_iff.mpr ⟨inside, kind, token, found, failed⟩

theorem run_upTo {target : Target} {bound : Int} (fewer : bound ≤ target.lineCount)
    (dialect : Dialect) (state : State) (position : Int) (lines : List String) :
    run dialect (target.withLines bound) (state.upTo bound) position lines =
      (run dialect target state position lines).map (State.upTo bound) := by
  induction lines generalizing state position with
  | nil => rfl
  | cons line lines ih =>
      rw [run, run, step_upTo fewer]
      cases read : step dialect target state position line with
      | error failure => rfl
      | ok next => exact ih next (position + 1)

/-- With fewer lines in the source a listing fails just as with more; if it does not, it has the same
blocks in the same order, but for those of the lines that are no more there. -/
theorem blocksOf_with_fewer_lines (dialect : Dialect) (path : String) {fewer more : Int}
    (notMore : fewer ≤ more) (listing : String) :
    blocksOf dialect { path := path, lineCount := fewer } listing =
      (blocksOf dialect { path := path, lineCount := more } listing).map (Blocks.upTo fewer) := by
  let target : Target := { path := path, lineCount := more }
  have fewerThan : fewer ≤ target.lineCount := notMore
  have ran := run_upTo fewerThan dialect State.initial 1 (Text.linesAtFeeds listing)
  change (run dialect (target.withLines fewer) (State.initial.upTo fewer) 1 _).map _ =
    ((run dialect target State.initial 1 _).map _).map _
  rw [ran]
  cases run dialect target State.initial 1 (Text.linesAtFeeds listing) with
  | error failure => rfl
  | ok final => rfl

/-- A block between two others goes with its line. -/
theorem blocksOf_with_fewer_lines_dropped :
    let listing := "; File a.c\n_TEXT SEGMENT\n; 2 : x\n\tmov eax\n; 3 : y\n\tnop\n; 1 : z\n\tret\n"
    (2 : Int) ≤ 3 ∧
      ∃ blocks, blocksOf Msvc.dialect { path := "a.c", lineCount := 3 } listing = .ok blocks ∧
        blocks.items = [(2, ["\tmov eax"]), (3, ["\tnop"]), (1, ["\tret"])] ∧
        blocksOf Msvc.dialect { path := "a.c", lineCount := 2 } listing = .ok (blocks.upTo 2) ∧
        (blocks.upTo 2).items = [(2, ["\tmov eax"]), (1, ["\tret"])] := by
  intro listing
  have notMore : (2 : Int) ≤ 3 := by decide
  have restricted := blocksOf_with_fewer_lines Msvc.dialect "a.c" notMore listing
  have read : (blocksOf Msvc.dialect { path := "a.c", lineCount := 3 } listing).toOption.map
      Table.items = some [(2, ["\tmov eax"]), (3, ["\tnop"]), (1, ["\tret"])] := by
    decide +kernel
  cases attributed : blocksOf Msvc.dialect { path := "a.c", lineCount := 3 } listing with
  | error failure =>
      rw [attributed] at read
      cases read
  | ok blocks =>
      rw [attributed] at restricted read
      have items : blocks.items = [(2, ["\tmov eax"]), (3, ["\tnop"]), (1, ["\tret"])] :=
        Option.some.inj read
      refine ⟨notMore, blocks, rfl, items, restricted, ?_⟩
      change blocks.items.filter _ = _
      rw [items]
      decide

end Listing

end ListingAtlas
