import ListingAtlas.Proofs.Listing.Growth
import ListingAtlas.Proofs.Outcome
import ListingAtlas.Proofs.Text.Lines

/-!
How the lines of a listing end does not matter. Lines that hold no feed and do not end in a return
are found again whatever breaks stand between them, so that the listing has the outcome of just
these lines: the same blocks, or the same failure at the same line.
-/

namespace ListingAtlas.Listing

/-- No line by itself has a block, for nothing precedes it. -/
theorem blocksOfLines_single (dialect : Dialect) (target : Target) (line : String) :
    blocksOfLines dialect target [line] = .ok Table.empty := by
  unfold blocksOfLines run
  cases read : step dialect target State.initial 1 line with
  | error failure =>
      obtain ⟨inside, _kind, _token, _found, _failed⟩ := step_eq_error_iff.mp read
      cases inside
  | ok next =>
      have same : next.blocks = Table.empty := by
        cases stepped_of_step read with
        | collect kind inside => cases inside
        | _ => rfl
      exact congrArg Except.ok same

/-- Blocks hold nothing but lines that were read. -/
theorem mem_lines_of_block {dialect : Dialect} {target : Target} {lines : List String}
    {blocks : Blocks} (attributed : blocksOfLines dialect target lines = .ok blocks)
    {sourceLine : Int} {block : List String} (found : blocks.get? sourceLine = some block) :
    ∀ line ∈ block, line ∈ lines := by
  obtain ⟨last, ran, rfl⟩ := map_eq_ok_iff.mp attributed
  have among : ∀ sourceLine block, last.blocks.get? sourceLine = some block →
      ∀ line ∈ block, line ∈ lines := by
    apply (fed_of_run ran).preserves
    · intro line before after read stepped holds
      cases stepped with
      | collect kind inside inSegment sourceLine current =>
          intro other block found one member
          rcases Blocks.mem_append found member with rfl | ⟨earlier, known, inEarlier⟩
          · exact read
          · exact holds other earlier known one inEarlier
      | _ => exact holds
    · exact fun _sourceLine _block none => nomatch none
  exact among sourceLine block found

theorem blocksOf_joined {lines : List String}
    (plain : ∀ line ∈ lines, '\n' ∉ line.toList ∧ line.toList.getLast? ≠ some '\r')
    (dialect : Dialect) (target : Target) (withReturn : Nat → Bool) :
    blocksOf dialect target (Text.joined withReturn lines) =
      blocksOfLines dialect target lines := by
  cases lines with
  | nil => exact blocksOfLines_single dialect target ""
  | cons line lines =>
      rw [blocksOf, Text.linesAtFeeds_joined (List.cons_ne_nil _ _)]
      · exact fun other member => (plain other member).1
      · intro index other _none found
        exact (plain other (List.mem_of_getElem? found)).2

/-- Whatever breaks stand between lines, the listing has the outcome that it has with feeds alone,
and this is the outcome of the lines themselves: its blocks hold these lines as they are. -/
theorem blocksOf_whatever_breaks {lines : List String}
    (plain : ∀ line ∈ lines, '\n' ∉ line.toList ∧ line.toList.getLast? ≠ some '\r')
    (dialect : Dialect) (target : Target) (withReturn : Nat → Bool) :
    let outcome := blocksOf dialect target (Text.joined withReturn lines)
    outcome = blocksOf dialect target ("\n".intercalate lines) ∧
      outcome = blocksOfLines dialect target lines ∧
      ∀ blocks, outcome = .ok blocks → ∀ sourceLine block,
        blocks.get? sourceLine = some block → ∀ line ∈ block, line ∈ lines := by
  intro outcome
  have itself : outcome = blocksOfLines dialect target lines :=
    blocksOf_joined plain dialect target withReturn
  have feeds : blocksOf dialect target ("\n".intercalate lines) =
      blocksOfLines dialect target lines := by
    have alike := Text.joined_alike false lines
    change _ = "\n".intercalate lines at alike
    rw [← alike]
    exact blocksOf_joined plain dialect target fun _index => false
  refine ⟨itself.trans feeds.symm, itself, ?_⟩
  intro blocks attributed sourceLine block found
  exact mem_lines_of_block (itself.symm.trans attributed) found

/-- Returns within lines, an empty line, and breaks of both kinds by turns. -/
theorem blocksOf_whatever_breaks_by_turns :
    let lines := ["; File a.c", "", "_TEXT SEGMENT", "; 1 : x\ry", "\tmov\reax", "\t\r\rret"]
    let withReturn : Nat → Bool := fun index => index % 2 == 0
    let target : Target := { path := "a.c", lineCount := 1 }
    let listing := "; File a.c\r\n\n_TEXT SEGMENT\r\n; 1 : x\ry\n\tmov\reax\r\n\t\r\rret"
    (∀ line ∈ lines, '\n' ∉ line.toList ∧ line.toList.getLast? ≠ some '\r') ∧
      Text.joined withReturn lines = listing ∧
      blocksOf Msvc.dialect target listing =
        blocksOf Msvc.dialect target ("\n".intercalate lines) ∧
      (blocksOf Msvc.dialect target listing).toOption.map Table.items =
        some [(1, ["\tmov\reax", "\t\r\rret"])] := by
  intro lines withReturn target listing
  have plain : ∀ line ∈ lines, '\n' ∉ line.toList ∧ line.toList.getLast? ≠ some '\r' := by
    decide +kernel
  have whole : Text.joined withReturn lines = listing := by decide +kernel
  obtain ⟨alike, itself, _verbatim⟩ :=
    blocksOf_whatever_breaks plain Msvc.dialect target withReturn
  rw [whole] at alike itself
  refine ⟨plain, whole, alike, ?_⟩
  rw [itself]
  decide +kernel

end ListingAtlas.Listing
