import ListingAtlas.Listing.Msvc
import ListingAtlas.Proofs.Listing.Step

/-!
Listings that meet at a file boundary. Reading on behind a directive for another file is reading
afresh, but for the source lines that have their blocks already: what is then collected for them
does not count. So the blocks of both parts together are those of the first part, and behind them
those that the second part alone has.
-/

namespace ListingAtlas

/-! ### One table behind another -/

namespace Table

variable {Key Value : Type} [DecidableEq Key]

/-- The items of a table, and behind them those of another one for keys that are new. -/
def followedBy (first second : Table Key Value) : Table Key Value :=
  { items := first.items ++ second.items.filter fun item => item.1 ∉ first.keys
    distinct := by
      rw [List.map_append, List.nodup_append]
      refine ⟨first.distinct, second.distinct.sublist (List.filter_sublist.map Prod.fst), ?_⟩
      intro key known other member same
      obtain ⟨item, kept, rfl⟩ := List.mem_map.mp member
      have new := (List.mem_filter.mp kept).2
      rw [decide_eq_true_eq] at new
      exact new (same ▸ known) }

theorem followedBy_empty (first : Table Key Value) : first.followedBy empty = first :=
  eq_of_items (List.append_nil _)

theorem mem_keys_followedBy (first second : Table Key Value) (key : Key) :
    key ∈ (first.followedBy second).keys ↔ key ∈ first.keys ∨ key ∈ second.keys := by
  have split : (first.followedBy second).keys =
      first.keys ++ (second.items.filter fun item => item.1 ∉ first.keys).map Prod.fst :=
    List.map_append
  rw [split, List.mem_append]
  constructor
  · rintro (known | member)
    · exact Or.inl known
    · obtain ⟨item, kept, same⟩ := List.mem_map.mp member
      exact Or.inr (List.mem_map.mpr ⟨item, (List.mem_filter.mp kept).1, same⟩)
  · rintro (known | member)
    · exact Or.inl known
    · by_cases known : key ∈ first.keys
      · exact Or.inl known
      · obtain ⟨item, present, same⟩ := List.mem_map.mp member
        refine Or.inr (List.mem_map.mpr ⟨item, List.mem_filter.mpr ⟨present, ?_⟩, same⟩)
        rw [same, decide_eq_true_eq]
        exact known

theorem contains_followedBy (first second : Table Key Value) (key : Key) :
    (first.followedBy second).contains key = true ↔
      key ∈ first.keys ∨ second.contains key = true := by
  rw [contains, contains, get?_isSome_iff, get?_isSome_iff, mem_keys_followedBy]

theorem get?_followedBy {first : Table Key Value} (second : Table Key Value) {key : Key}
    (new : key ∉ first.keys) : (first.followedBy second).get? key = second.get? key := by
  have same (value : Value) : (first.followedBy second).get? key = some value ↔
      second.get? key = some value := by
    rw [get?_eq_some_iff, get?_eq_some_iff]
    change (key, value) ∈ first.items ++ second.items.filter _ ↔ _
    rw [List.mem_append, List.mem_filter, decide_eq_true_eq]
    constructor
    · rintro (known | kept)
      · exact absurd (List.mem_map.mpr ⟨(key, value), known, rfl⟩) new
      · exact kept.1
    · exact fun member => Or.inr ⟨member, new⟩
  exact Option.ext same

/-! ### A change of the table behind -/

theorem replaceIn_of_not_mem {key : Key} {items : List (Key × Value)}
    (missing : key ∉ items.map Prod.fst) (value : Value) : replaceIn key value items = items := by
  have unchanged : ∀ item ∈ items, (if item.1 = key then (key, value) else item) = item := by
    intro item member
    rw [if_neg]
    intro same
    exact missing (List.mem_map.mpr ⟨item, member, same⟩)
  rw [replaceIn, List.map_congr_left unchanged, List.map_id']

/-- Whether an item is kept goes by its key, which stays as it is. -/
theorem filter_replaceIn (keep : Key → Bool) (key : Key) (value : Value)
    (items : List (Key × Value)) :
    (replaceIn key value items).filter (fun item => keep item.1) =
      replaceIn key value (items.filter fun item => keep item.1) := by
  unfold replaceIn
  rw [List.filter_map]
  congr 1
  apply List.filter_congr
  intro item _member
  by_cases same : item.1 = key
  · simp [same]
  · simp [same]

theorem not_mem_filter_keys {kept : List Key} {key : Key} (known : key ∈ kept)
    (items : List (Key × Value)) :
    key ∉ (items.filter fun item => item.1 ∉ kept).map Prod.fst := by
  intro member
  obtain ⟨item, present, rfl⟩ := List.mem_map.mp member
  have new := (List.mem_filter.mp present).2
  rw [decide_eq_true_eq] at new
  exact new known

theorem followedBy_insert_known {first : Table Key Value} (second : Table Key Value) {key : Key}
    (known : key ∈ first.keys) (value : Value) :
    first.followedBy (second.insert key value) = first.followedBy second := by
  apply eq_of_items
  change first.items ++ (second.insert key value).items.filter _ = first.items ++ _
  by_cases present : key ∈ second.keys
  · rw [items_insert_of_mem present, filter_replaceIn fun key => decide (key ∉ first.keys),
      replaceIn_of_not_mem (not_mem_filter_keys known second.items)]
  · rw [items_insert_of_not_mem present, List.filter_append]
    simp [known]

theorem followedBy_insert_new {first : Table Key Value} (second : Table Key Value) {key : Key}
    (new : key ∉ first.keys) (value : Value) :
    first.followedBy (second.insert key value) = (first.followedBy second).insert key value := by
  apply eq_of_items
  change first.items ++ (second.insert key value).items.filter _ = _
  by_cases present : key ∈ second.keys
  · have joined : key ∈ (first.followedBy second).keys :=
      (mem_keys_followedBy first second key).mpr (Or.inr present)
    rw [items_insert_of_mem present, items_insert_of_mem joined,
      filter_replaceIn fun key => decide (key ∉ first.keys)]
    change _ = replaceIn key value (first.items ++ _)
    rw [replaceIn, replaceIn, List.map_append]
    congr 1
    exact (replaceIn_of_not_mem new value).symm
  · have missing : key ∉ (first.followedBy second).keys := by
      rw [mem_keys_followedBy]
      rintro (known | member)
      · exact new known
      · exact present member
    rw [items_insert_of_not_mem present, items_insert_of_not_mem missing, List.filter_append,
      ← List.append_assoc]
    congr 1
    simp [new]

end Table

/-- A failure told for a listing in which lines have other places. -/
def Failure.moved (place : Int → Int) : Failure → Failure
  | .malformedDirective position line => .malformedDirective (place position) line
  | failure => failure

/-- A failure at a line, told for a listing in which this line comes later. -/
def Failure.shifted (count : Int) : Failure → Failure
  | .malformedDirective position line => .malformedDirective (position + count) line
  | failure => failure

theorem Failure.shifted_eq_moved (count : Int) (failure : Failure) :
    failure.shifted count = failure.moved (· + count) := by
  cases failure <;> rfl

namespace Listing

/-! ### Reading on instead of afresh -/

theorem Blocks.append_known {kept : Blocks} (blocks : Blocks) {sourceLine : Int}
    (known : sourceLine ∈ kept.keys) (line : String) :
    kept.followedBy (blocks.append sourceLine line) = kept.followedBy blocks :=
  Table.followedBy_insert_known blocks known _

theorem Blocks.append_new {kept : Blocks} (blocks : Blocks) {sourceLine : Int}
    (new : sourceLine ∉ kept.keys) (line : String) :
    kept.followedBy (blocks.append sourceLine line) =
      Blocks.append (kept.followedBy blocks) sourceLine line := by
  unfold Blocks.append
  rw [Table.followedBy_insert_new blocks new, Table.get?_followedBy blocks new]

/-- What a state would be if some blocks had been there before: they come first, and none of their
lines is current. -/
def State.behind (kept : Blocks) (state : State) : State :=
  { state with
    current := state.current.filter fun sourceLine => sourceLine ∉ kept.keys
    blocks := kept.followedBy state.blocks }

theorem announcedLine_followedBy (target : Target) (kept blocks : Blocks) (number : Int) :
    announcedLine target (kept.followedBy blocks) number =
      (announcedLine target blocks number).filter fun sourceLine => sourceLine ∉ kept.keys := by
  have contained := Table.contains_followedBy kept blocks number
  unfold announcedLine
  by_cases known : number ∈ kept.keys
  · have refused : kept.followedBy blocks |>.contains number := contained.mpr (Or.inl known)
    rw [refused, Bool.or_true, if_pos rfl]
    split
    · rfl
    · simp [Option.filter, known]
  · have same : (kept.followedBy blocks).contains number = blocks.contains number := by
      rw [Bool.eq_iff_iff, contained]
      simp [known]
    rw [same]
    split
    · rfl
    · simp [Option.filter, known]

theorem Stepped.behind {dialect : Dialect} {target : Target} {line : String} {state next : State}
    (stepped : Stepped dialect target line state next) (kept : Blocks) :
    Stepped dialect target line (state.behind kept) (next.behind kept) := by
  cases stepped with
  | enter kind names => exact .enter kind names
  | leave kind other => exact .leave kind other
  | outside kind out => exact .outside kind out
  | openSegment kind inside => exact .openSegment kind inside
  | closeSegment kind inside => exact .closeSegment kind inside
  | announce kind inside token found numeral short =>
      have announced := @Stepped.announce dialect target line (state.behind kept) kind inside token
        found numeral short
      simp only [State.behind, announcedLine_followedBy] at announced
      exact announced
  | unindent kind inside => exact .unindent kind inside
  | collect kind inside inSegment sourceLine current =>
      by_cases known : sourceLine ∈ kept.keys
      · have idle : (state.behind kept).current = none := by
          simp [State.behind, current, known]
        rw [State.behind, State.behind, Blocks.append_known state.blocks known]
        exact .drop kind inside (Or.inr idle)
      · have still : (state.behind kept).current = some sourceLine := by
          simp [State.behind, current, known]
        have collected := @Stepped.collect dialect target line (state.behind kept) kind inside
          inSegment sourceLine still
        simp only [State.behind, ← Blocks.append_new state.blocks known] at collected
        exact collected
  | drop kind inside idle =>
      refine .drop kind inside ?_
      rcases idle with closed | unknown
      · exact Or.inl closed
      · right
        simp [State.behind, unknown]
  | ignore kind inside => exact .ignore kind inside

theorem directiveNumber_moved {position : Int} {line token : String} {failure : Failure}
    (failed : directiveNumber position line token = .error failure) (place : Int → Int) :
    directiveNumber (place position) line token = .error (failure.moved place) := by
  rcases directiveNumber_eq_error_iff.mp failed with ⟨malformed, rfl⟩ | ⟨numeral, long, rfl⟩
  · exact directiveNumber_eq_error_iff.mpr (Or.inl ⟨malformed, rfl⟩)
  · exact directiveNumber_eq_error_iff.mpr (Or.inr ⟨numeral, long, rfl⟩)

theorem directiveNumber_shifted {position : Int} {line token : String} {failure : Failure}
    (failed : directiveNumber position line token = .error failure) (count : Int) :
    directiveNumber (position + count) line token = .error (failure.shifted count) := by
  rw [Failure.shifted_eq_moved]
  exact directiveNumber_moved failed (· + count)

/-- The outcome of reading with some blocks there before, and so many lines. -/
def behindAll (kept : Blocks) (count : Int) :
    Except Failure State → Except Failure State
  | .ok state => .ok (state.behind kept)
  | .error failure => .error (failure.shifted count)

theorem step_behind (dialect : Dialect) (target : Target) (kept : Blocks) (count : Int)
    (state : State) (position : Int) (line : String) :
    step dialect target (state.behind kept) (position + count) line =
      behindAll kept count (step dialect target state position line) := by
  cases read : step dialect target state position line with
  | ok next => exact step_of_stepped ((stepped_of_step read).behind kept) _
  | error failure =>
      obtain ⟨inside, kind, token, found, failed⟩ := step_eq_error_iff.mp read
      exact step_eq_error_iff.mpr
        ⟨inside, kind, token, found, directiveNumber_shifted failed count⟩

theorem run_behind (dialect : Dialect) (target : Target) (kept : Blocks) (count : Int)
    (state : State) (position : Int) (lines : List String) :
    run dialect target (state.behind kept) (position + count) lines =
      behindAll kept count (run dialect target state position lines) := by
  induction lines generalizing state position with
  | nil => rfl
  | cons line lines ih =>
      rw [run, run, step_behind]
      cases read : step dialect target state position line with
      | error failure => rfl
      | ok next =>
          change run dialect target (next.behind kept) (position + count + 1) lines = _
          rw [Int.add_right_comm, ih]

/-! ### Two parts -/

theorem run_cons (dialect : Dialect) (target : Target) (state : State) (position : Int)
    (line : String) (lines : List String) :
    run dialect target state position (line :: lines) =
      (step dialect target state position line).bind fun next =>
        run dialect target next (position + 1) lines := by
  rw [run]
  cases step dialect target state position line <;> rfl

/-- Lines that change nothing are read without a trace. -/
theorem run_idle {dialect : Dialect} {target : Target} {state : State} {lines : List String}
    (idle : ∀ line ∈ lines, Stepped dialect target line state state) (position : Int) :
    run dialect target state position lines = .ok state := by
  induction lines generalizing position with
  | nil => rfl
  | cons line lines ih =>
      rw [run_cons, step_of_stepped (idle line List.mem_cons_self)]
      exact ih (fun other member => idle other (List.mem_cons_of_mem line member)) (position + 1)

theorem run_append (dialect : Dialect) (target : Target) (state : State) (position : Int)
    (first second : List String) :
    run dialect target state position (first ++ second) =
      (run dialect target state position first).bind fun middle =>
        run dialect target middle (position + first.length) second := by
  induction first generalizing state position with
  | nil =>
      change run dialect target state position second =
        run dialect target state (position + (0 : Nat)) second
      rw [Int.natCast_zero, Int.add_zero]
  | cons line first ih =>
      rw [List.cons_append, run, run]
      cases read : step dialect target state position line with
      | error failure => rfl
      | ok next =>
          change run dialect target next (position + 1) (first ++ second) =
            (run dialect target next (position + 1) first).bind _
          rw [ih, List.length_cons]
          congr 1
          funext middle
          congr 1
          omega

/-- A directive for another file leaves nothing but the blocks. -/
theorem step_boundary {dialect : Dialect} {target : Target} {boundary : String}
    (kind : dialect.classify boundary = .fileDirective)
    (other : dialect.namesFile boundary target.path = false) (state : State) (position : Int) :
    step dialect target state position boundary = .ok (State.initial.behind state.blocks) := by
  have left : Stepped dialect target boundary state _ := .leave kind other
  rw [step_of_stepped left position]
  unfold State.behind State.initial
  rw [Table.followedBy_empty]
  rfl

/-- Where a listing turns to another file, both its parts are read as if each stood alone: the blocks
of the second part follow those of the first, as far as these have none for their lines. The first
part to fail decides how the whole fails; positions in the second part count on. -/
theorem blocksOfLines_across_boundary (dialect : Dialect) (target : Target)
    (before after : List String) {boundary : String}
    (kind : dialect.classify boundary = .fileDirective)
    (other : dialect.namesFile boundary target.path = false) :
    blocksOfLines dialect target (before ++ [boundary] ++ after) =
      match blocksOfLines dialect target before, blocksOfLines dialect target after with
      | .ok first, .ok second => .ok (first.followedBy second)
      | .ok _, .error failure => .error (failure.shifted (before.length + 1))
      | .error failure, _ => .error failure := by
  unfold blocksOfLines
  rw [List.append_assoc, run_append]
  cases first : run dialect target State.initial 1 before with
  | error failure => rfl
  | ok middle =>
      change ((run dialect target middle (1 + before.length) (boundary :: after)).map _) = _
      rw [run, step_boundary kind other]
      change ((run dialect target (State.initial.behind middle.blocks)
        (1 + before.length + 1) after).map _) = _
      rw [Int.add_assoc, run_behind]
      cases second : run dialect target State.initial 1 after with
      | error failure => rfl
      | ok final => rfl

/-- A header between two parts of a file; the second part comes back to a line of the first. -/
theorem blocksOfLines_across_header :
    let target : Target := { path := "a.c", lineCount := 3 }
    let before := ["; File a.c", "_TEXT SEGMENT", "; 2 : x", "\tmov eax"]
    let boundary := "; File b.h"
    let after := ["; 9 : z", "\tnop", "; File a.c", "_TEXT SEGMENT", "; 1 : y", "\tpop ebp",
      "; 2 : x", "\tnop", "; 1 : y", "\tret"]
    Msvc.dialect.classify boundary = .fileDirective ∧
      Msvc.dialect.namesFile boundary target.path = false ∧
      ∃ blocks, blocksOfLines Msvc.dialect target (before ++ [boundary] ++ after) = .ok blocks ∧
        blocks.items = [(2, ["\tmov eax"]), (1, ["\tpop ebp"])] := by
  intro target before boundary after
  have kind : Msvc.dialect.classify boundary = .fileDirective := by decide +kernel
  have other : Msvc.dialect.namesFile boundary target.path = false := by decide +kernel
  refine ⟨kind, other, ?_⟩
  have joined := blocksOfLines_across_boundary Msvc.dialect target before after kind other
  have firstItems : (blocksOfLines Msvc.dialect target before).toOption.map Table.items =
      some [(2, ["\tmov eax"])] := by
    decide +kernel
  have secondItems : (blocksOfLines Msvc.dialect target after).toOption.map Table.items =
      some [(1, ["\tpop ebp"]), (2, ["\tnop"])] := by
    decide +kernel
  cases first : blocksOfLines Msvc.dialect target before with
  | error failure =>
      rw [first] at firstItems
      cases firstItems
  | ok earlier =>
      cases second : blocksOfLines Msvc.dialect target after with
      | error failure =>
          rw [second] at secondItems
          cases secondItems
      | ok later =>
          rw [first] at joined firstItems
          rw [second] at joined secondItems
          refine ⟨earlier.followedBy later, joined, ?_⟩
          have earlierItems : earlier.items = [(2, ["\tmov eax"])] := Option.some.inj firstItems
          have laterItems : later.items = [(1, ["\tpop ebp"]), (2, ["\tnop"])] :=
            Option.some.inj secondItems
          simp only [Table.followedBy, Table.keys, earlierItems, laterItems]
          decide

end Listing

end ListingAtlas
