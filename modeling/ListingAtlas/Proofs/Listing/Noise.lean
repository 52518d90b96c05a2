import ListingAtlas.Proofs.Listing.Boundary
import ListingAtlas.Proofs.Listing.Refusal

/-!
Noise in a listing: the lines of other files, and remarks anywhere. It may be deleted, and the lines
of other files may be written anew, as long as no file directive comes of it; what is then read is
what was read before. Only the positions of lines change, where lines are added or deleted.
-/

namespace ListingAtlas

namespace Listing

/-! ### Edited listings -/

/-- The lines from a position on, with others in place of those that are edited. -/
def editedFrom (edit : Nat → Option (List String)) : Nat → List String → List String
  | _, [] => []
  | position, line :: lines =>
      (edit position).getD [line] ++ editedFrom edit (position + 1) lines

theorem editedFrom_append (edit : Nat → Option (List String)) (position : Nat)
    (first second : List String) :
    editedFrom edit position (first ++ second) =
      editedFrom edit position first ++ editedFrom edit (position + first.length) second := by
  induction first generalizing position with
  | nil => rfl
  | cons line first ih =>
      rw [List.cons_append, editedFrom, editedFrom, ih, List.append_assoc, List.length_cons,
        Nat.add_assoc, Nat.add_comm 1 first.length]

theorem length_editedFrom {edit : Nat → Option (List String)}
    (single : ∀ position others, edit position = some others → others.length = 1)
    (position : Nat) (lines : List String) :
    (editedFrom edit position lines).length = lines.length := by
  induction lines generalizing position with
  | nil => rfl
  | cons line lines ih =>
      have one : ((edit position).getD [line]).length = 1 := by
        cases edited : edit position with
        | none => rfl
        | some others => exact single position others edited
      rw [editedFrom, List.length_append, ih, one, List.length_cons, Nat.add_comm]

namespace Source

variable (source : Source)

/-- Neither in the target nor a file directive. -/
def Foreign (position : Nat) : Prop :=
  source.kindAt? position ≠ some .fileDirective ∧ ¬ source.InTarget position

/-- Nothing but a comment or a blank line. -/
def Remark (position : Nat) : Prop :=
  source.kindAt? position = some .comment ∨ source.kindAt? position = some .blank

def edited (edit : Nat → Option (List String)) : List String :=
  editedFrom edit 1 source.lines

/-- Where a line of the listing stands when it is edited: behind what is made of the lines before. -/
def placeIn (edit : Nat → Option (List String)) (position : Int) : Int :=
  ((editedFrom edit 1 (source.lines.take (position.toNat - 1))).length + 1 : Nat)

/-- Foreign lines give way to any lines but file directives, and remarks to remarks. -/
def EditsNoise (edit : Nat → Option (List String)) : Prop :=
  ∀ position others, edit position = some others →
    (source.Foreign position ∧
      ∀ other ∈ others, source.dialect.classify other ≠ .fileDirective) ∨
    (source.Remark position ∧
      ∀ other ∈ others, source.dialect.classify other = .comment ∨
        source.dialect.classify other = .blank)

/-! ### All noise deleted -/

instance (position : Nat) : Decidable (source.Enters position) :=
  inferInstanceAs (Decidable (source.kindAt? position = some .fileDirective ∧
    ∃ line ∈ source.lineAt? position,
      source.dialect.namesFile line source.target.path = true))

/-- The file directives are followed from the first line on. -/
def decideInTarget : (position : Nat) → Decidable (source.InTarget position)
  | 0 => isFalse (by
      rintro ⟨directive, before, _rest⟩
      exact absurd before (Nat.not_lt_zero directive))
  | position + 1 =>
      have := decideInTarget position
      decidable_of_iff _ inTarget_succ_iff.symm

instance (position : Nat) : Decidable (source.InTarget position) :=
  source.decideInTarget position

instance (position : Nat) : Decidable (source.Foreign position) :=
  inferInstanceAs (Decidable (_ ∧ _))

instance (position : Nat) : Decidable (source.Remark position) :=
  inferInstanceAs (Decidable (_ ∨ _))

/-- The edit that deletes all foreign lines and all remarks. -/
def noiseDeleted (position : Nat) : Option (List String) :=
  if source.Foreign position ∨ source.Remark position then some [] else none

/-- The listing without noise. -/
def withoutNoise : List String :=
  source.edited source.noiseDeleted

theorem noiseDeleted_editsNoise : source.EditsNoise source.noiseDeleted := by
  intro position others edited
  unfold noiseDeleted at edited
  split at edited
  · rename_i noise
    rw [Option.some.injEq] at edited
    subst edited
    rcases noise with foreign | remark
    · exact Or.inl ⟨foreign, by simp⟩
    · exact Or.inr ⟨remark, by simp⟩
  · cases edited

end Source

/-! ### Reading an edited listing -/

theorem stepped_remark {dialect : Dialect} {line : String}
    (remark : dialect.classify line = .comment ∨ dialect.classify line = .blank)
    (target : Target) (state : State) : Stepped dialect target line state state := by
  cases inside : state.inTarget with
  | true => exact .ignore remark inside
  | false =>
      refine .outside ?_ inside
      rcases remark with kind | kind <;> simp [kind]

theorem Source.classify_of_kindAt? {source : Source} {position : Nat} {line : String}
    {kind : LineKind} (atLine : source.lineAt? position = some line)
    (here : source.kindAt? position = some kind) : source.dialect.classify line = kind := by
  rw [kindAt?_of_lineAt? atLine, Option.some.injEq] at here
  exact here

/-- Noise does nothing, and neither does what an edit puts in its place. -/
theorem Read.noise_idle {source : Source} {count : Nat} {state : State} {line : String}
    {edit : Nat → Option (List String)} {others : List String} (read : Read source count state)
    (atLine : source.lineAt? (count + 1) = some line) (edits : source.EditsNoise edit)
    (edited : edit (count + 1) = some others) :
    ∀ other ∈ line :: others, Stepped source.dialect source.target other state state := by
  intro other member
  rcases edits (count + 1) others edited with ⟨foreign, ordinary⟩ | ⟨remark, remarks⟩
  · have out : state.inTarget = false := by
      rw [← Bool.not_eq_true, read.inTarget]
      exact foreign.2
    rcases List.mem_cons.mp member with rfl | new
    · refine .outside ?_ out
      intro directive
      apply foreign.1
      rw [Source.kindAt?_of_lineAt? atLine, directive]
    · exact .outside (ordinary other new) out
  · rcases List.mem_cons.mp member with rfl | new
    · rcases remark with kind | kind
      · exact stepped_remark (Or.inl (Source.classify_of_kindAt? atLine kind)) _ _
      · exact stepped_remark (Or.inr (Source.classify_of_kindAt? atLine kind)) _ _
    · exact stepped_remark (remarks other new) _ _

theorem step_moved {dialect : Dialect} {target : Target} {state : State} {position : Int}
    {line : String} (place : Int → Int) :
    step dialect target state (place position) line =
      (step dialect target state position line).mapError (Failure.moved place) := by
  cases read : step dialect target state position line with
  | ok next => exact step_of_stepped (stepped_of_step read) _
  | error failure =>
      obtain ⟨inside, kind, token, found, failed⟩ := step_eq_error_iff.mp read
      exact step_eq_error_iff.mpr ⟨inside, kind, token, found, directiveNumber_moved failed place⟩

theorem Source.placeIn_of_parts {source : Source} {before rest : List String}
    (parts : before ++ rest = source.lines) (edit : Nat → Option (List String)) :
    source.placeIn edit ((before.length + 1 : Nat) : Int) =
      ((editedFrom edit 1 before).length + 1 : Nat) := by
  unfold placeIn
  rw [Int.toNat_natCast, Nat.add_sub_cancel, ← parts, List.take_left]

/-- Reading the rest of a listing, edited or not. -/
theorem Read.run_edited {source : Source} {before rest : List String} {state : State}
    {edit : Nat → Option (List String)} (read : Read source before.length state)
    (parts : before ++ rest = source.lines) (edits : source.EditsNoise edit) :
    Listing.run source.dialect source.target state
        (source.placeIn edit ((before.length + 1 : Nat) : Int))
        (editedFrom edit (before.length + 1) rest) =
      (Listing.run source.dialect source.target state ((before.length + 1 : Nat) : Int)
        rest).mapError (Failure.moved (source.placeIn edit)) := by
  induction rest generalizing before state with
  | nil => rfl
  | cons line rest ih =>
      have atLine := Source.lineAt?_of_parts parts
      have whole : (before ++ [line]) ++ rest = source.lines :=
        (List.append_cons before line rest).symm.trans parts
      have counted : (before ++ [line]).length = before.length + 1 := by
        rw [List.length_append, List.length_singleton]
      have grown : editedFrom edit 1 (before ++ [line]) =
          editedFrom edit 1 before ++ (edit (before.length + 1)).getD [line] := by
        rw [editedFrom_append, Nat.add_comm 1, editedFrom, editedFrom, List.append_nil]
      -- What follows the line, once it has been read and left the place that the next one takes.
      have behind {next : State} (after : Read source (before.length + 1) next) :
          Listing.run source.dialect source.target next
              (source.placeIn edit ((before.length + 1 : Nat) : Int) +
                ((edit (before.length + 1)).getD [line]).length)
              (editedFrom edit (before.length + 1 + 1) rest) =
            (Listing.run source.dialect source.target next
              (((before.length + 1 : Nat) : Int) + 1) rest).mapError
              (Failure.moved (source.placeIn edit)) := by
        rw [← counted] at after
        have followed := ih after whole
        rw [Source.placeIn_of_parts whole, grown, counted, List.length_append] at followed
        rw [Source.placeIn_of_parts parts]
        push_cast at followed ⊢
        rw [Int.add_right_comm]
        exact followed
      rw [editedFrom]
      cases edited : edit (before.length + 1) with
      | none =>
          rw [edited] at behind
          change Listing.run source.dialect source.target state _ (line :: editedFrom edit _ rest) =
            _
          rw [Listing.run, Listing.run, step_moved]
          cases stepped : Listing.step source.dialect source.target state
              ((before.length + 1 : Nat) : Int) line with
          | error failure => rfl
          | ok next => exact behind (read.step atLine (stepped_of_step stepped))
      | some others =>
          rw [edited] at behind
          have idle := read.noise_idle atLine edits edited
          have here := idle line List.mem_cons_self
          have passed := run_idle fun other member => idle other (List.mem_cons_of_mem line member)
          rw [Option.getD_some, run_append, passed, Listing.run, step_of_stepped here]
          exact behind (read.step atLine here)

theorem blocksOfLines_edited {source : Source} {edit : Nat → Option (List String)}
    (edits : source.EditsNoise edit) :
    blocksOfLines source.dialect source.target (source.edited edit) =
      (blocksOfLines source.dialect source.target source.lines).mapError
        (Failure.moved (source.placeIn edit)) := by
  have start : Read source ([] : List String).length State.initial := read_initial source
  have ran := start.run_edited (List.nil_append source.lines) edits
  change run source.dialect source.target State.initial 1 (source.edited edit) =
    (run source.dialect source.target State.initial 1 source.lines).mapError _ at ran
  unfold blocksOfLines
  rw [ran]
  cases run source.dialect source.target State.initial 1 source.lines <;> rfl

/-- Where each line that is edited gives way to one other, every line keeps its place. -/
theorem blocksOfLines_edited_singly {source : Source} {edit : Nat → Option (List String)}
    (edits : source.EditsNoise edit)
    (single : ∀ position others, edit position = some others → others.length = 1) :
    blocksOfLines source.dialect source.target (source.edited edit) =
      blocksOfLines source.dialect source.target source.lines := by
  rw [blocksOfLines_edited edits]
  cases outcome : blocksOfLines source.dialect source.target source.lines with
  | ok blocks => rfl
  | error failure =>
      obtain ⟨position, refused, _reached⟩ := (blocksOfLines_eq_error_iff source failure).mp outcome
      have within := refused.within
      have positive : position ≠ 0 := by
        rintro rfl
        exact source.not_refuses_zero failure refused
      have same : source.placeIn edit position = position := by
        unfold Source.placeIn
        rw [length_editedFrom single, List.length_take, Int.toNat_natCast]
        omega
      obtain ⟨_inTarget, _kind, line, token, _atLine, _found, told⟩ := refused
      rcases told with ⟨_malformed, rfl⟩ | ⟨_numeral, _long, rfl⟩
      · change Except.error (Failure.malformedDirective (source.placeIn edit position) line) = _
        rw [same]
      · rfl

/-- Noise has no influence. Without the lines outside the target that are no file directives, and
without comments and blank lines, a listing has the same blocks, or it fails alike but for the
position of the directive; and so it does when lines outside the target give way to any others that
are no file directives. If each gives way to one, the position is the same as well. -/
theorem blocksOfLines_ignores_noise (source : Source) :
    blocksOfLines source.dialect source.target source.withoutNoise =
      (blocksOfLines source.dialect source.target source.lines).mapError
        (Failure.moved (source.placeIn source.noiseDeleted)) ∧
    ∀ edit, source.EditsNoise edit →
      blocksOfLines source.dialect source.target (source.edited edit) =
        (blocksOfLines source.dialect source.target source.lines).mapError
          (Failure.moved (source.placeIn edit)) ∧
      ((∀ position others, edit position = some others → others.length = 1) →
        blocksOfLines source.dialect source.target (source.edited edit) =
          blocksOfLines source.dialect source.target source.lines) := by
  refine ⟨blocksOfLines_edited source.noiseDeleted_editsNoise, ?_⟩
  intro edit edits
  exact ⟨blocksOfLines_edited edits, blocksOfLines_edited_singly edits⟩

/-- A malformed directive is deleted with the file that it stands in, and so is a comment. -/
example :
    let source : Source :=
      { dialect := Msvc.dialect
        target := { path := "a.c", lineCount := 1 }
        lines := ["; File b.h", "; 1x : y", "; File a.c", "_TEXT SEGMENT", "; 1 : x", "; note",
          "\tret"] }
    source.withoutNoise =
      ["; File b.h", "; File a.c", "_TEXT SEGMENT", "; 1 : x", "\tret"] := by
  decide +kernel

end Listing

end ListingAtlas
