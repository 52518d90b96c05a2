import ListingAtlas.Proofs.View.Annotated
import ListingAtlas.Proofs.View.Documents

/-!
How many digits the lines of a listing have. A directive of too many digits is refused, so no block
belongs to a line of so many, and what is shown of a listing can be spelled.
-/

namespace ListingAtlas

open Number

/-! ### Numerals -/

namespace Number

theorem tenTo_succ (exponent : Nat) : tenTo (exponent + 1) = 10 * tenTo exponent :=
  Nat.pow_succ'

theorem tenTo_le_tenTo {less more : Nat} (le : less ≤ more) : tenTo less ≤ tenTo more :=
  Nat.pow_le_pow_right (by decide) le

end Number

namespace Text

theorem digitValue?_le {character : Char} {value : Nat}
    (digit : digitValue? character = some value) : value ≤ 9 := by
  obtain ⟨first, found, rfl⟩ := Option.map_eq_some_iff.mp digit
  have within := List.find?_some found
  rw [Bool.and_eq_true, decide_eq_true_eq, decide_eq_true_eq] at within
  omega

/-- A run of digits writes a number of no more digits. -/
theorem numberOf_lt (digits : List Char) : numberOf digits < tenTo digits.length := by
  have fold (start : Nat) :
      digits.foldl (fun number digit => 10 * number + (digitValue? digit).getD 0) start <
        (start + 1) * tenTo digits.length := by
    induction digits generalizing start with
    | nil => exact (Nat.mul_one (start + 1)).symm ▸ Nat.lt_succ_self start
    | cons digit digits ih =>
        have least : (digitValue? digit).getD 0 ≤ 9 := by
          cases value : digitValue? digit with
          | none => exact Nat.zero_le 9
          | some value => exact digitValue?_le (by assumption)
        rw [List.foldl_cons, List.length_cons, tenTo_succ]
        calc _ < (10 * start + (digitValue? digit).getD 0 + 1) * tenTo digits.length := ih _
          _ ≤ (start + 1) * 10 * tenTo digits.length := by
              apply Nat.mul_le_mul_right
              omega
          _ = (start + 1) * (10 * tenTo digits.length) := Nat.mul_assoc _ _ _
  have whole := fold 0
  rwa [Nat.zero_add, Nat.one_mul] at whole

end Text

namespace Number

theorem isShort_numberOf {digits : List Char} (short : digits.length ≤ digitLimit) :
    IsShort (Text.numberOf digits) := by
  rw [isShort_iff, Int.natAbs_natCast]
  exact Nat.lt_of_lt_of_le (Text.numberOf_lt digits) (tenTo_le_tenTo short)

end Number

/-! ### Lines of a listing -/

namespace Listing

/-- No line that has a block, or is to have one, has too many digits. -/
structure State.Short (state : State) : Prop where
  current : ∀ sourceLine, state.current = some sourceLine → IsShort sourceLine
  blocks : ∀ sourceLine ∈ state.blocks.keys, IsShort sourceLine

theorem State.short_initial : State.initial.Short where
  current _ none := nomatch none
  blocks _ member := nomatch member

theorem State.Short.step {dialect : Dialect} {target : Target} {line : String}
    {state next : State} (short : state.Short) (stepped : Stepped dialect target line state next) :
    next.Short := by
  have idle {sourceLine : Int} (nowhere : none = some sourceLine) : IsShort sourceLine := by
    cases nowhere
  cases stepped with
  | enter => exact ⟨short.current, short.blocks⟩
  | leave => exact ⟨fun _line => idle, short.blocks⟩
  | outside => exact short
  | openSegment => exact ⟨short.current, short.blocks⟩
  | closeSegment => exact ⟨fun _line => idle, short.blocks⟩
  | announce kind inside token found numeral limited =>
      refine ⟨fun sourceLine announced => ?_, short.blocks⟩
      rw [← (announcedLine_eq_some_iff.mp announced).1]
      exact isShort_numberOf limited
  | unindent => exact ⟨fun _line => idle, short.blocks⟩
  | collect kind inside inSegment sourceLine current =>
      refine ⟨short.current, fun other member => ?_⟩
      rcases (Blocks.mem_keys_append ..).mp member with known | new
      · exact short.blocks other known
      · rw [new]
        exact short.current sourceLine current
  | drop => exact short
  | ignore => exact short

theorem short_of_blocksOf {dialect : Dialect} {target : Target} {listing : String}
    {blocks : Blocks} (attributed : blocksOf dialect target listing = .ok blocks) {sourceLine : Int}
    (known : sourceLine ∈ blocks.keys) : IsShort sourceLine := by
  obtain ⟨last, ran, rfl⟩ := map_eq_ok_iff.mp attributed
  have short : last.Short :=
    (fed_of_run ran).preserves (fun _member stepped before => before.step stepped) State.short_initial
  exact short.blocks sourceLine known

end Listing

/-! ### What is shown of a listing -/

section

variable {presentation : Presentation} {listing target source name : String}
  {correlation : Correlation}

theorem line_of_correlate {dialect : Listing.Dialect}
    (correlated : correlate dialect presentation listing target source name = .ok correlation)
    {entry : Entry} (among : entry ∈ correlation.entries) :
    1 ≤ entry.sourceLine ∧ IsShort entry.sourceLine := by
  obtain ⟨blocks, attributed, rest⟩ := bind_eq_ok_iff.mp correlated
  obtain ⟨separator, _known, rest⟩ := bind_eq_ok_iff.mp rest
  obtain ⟨entries, assembled, whole⟩ := bind_eq_ok_iff.mp rest
  rw [← Except.ok.inj whole] at among
  obtain ⟨block, found, _joined, _shown⟩ := block_of_assembled assembled among
  have known : entry.sourceLine ∈ blocks.keys := by
    rw [← Table.get?_isSome_iff, found]
    rfl
  exact ⟨(Listing.keys_within attributed known).1, Listing.short_of_blocksOf attributed known⟩

/-- A correlation of a listing has a page. -/
theorem View.exists_page_of_correlate {dialect : Listing.Dialect}
    (correlated : correlate dialect presentation listing target source name = .ok correlation) :
    ∃ page, View.html.spelled correlation = .ok page :=
  (View.exists_page_iff correlation).mpr fun _entry among => (line_of_correlate correlated among).2

/-- Every view of a listing is shown as it is, for texts with no more characters than can be
counted in so many digits. -/
theorem spelled_of_correlate {dialect : Listing.Dialect}
    (correlated : correlate dialect presentation listing target source name = .ok correlation)
    (lengths : ∀ entry ∈ correlation.entries, IsShort entry.sourceText.length) {view : View}
    (known : view ∈ View.all) : view.spelled correlation = .ok (view.content correlation) := by
  have lines : ∀ entry ∈ correlation.entries, IsShort entry.sourceLine := fun entry among =>
    (line_of_correlate correlated among).2
  apply View.spelled_of_short
  simp only [View.all, List.mem_cons, List.not_mem_nil, or_false] at known
  rcases known with rfl | rfl | rfl | rfl
  · exact fun number none => nomatch none
  · exact List.forall_mem_map.mpr lines
  · exact (View.Document.forall_numbers_json_iff correlation).mpr lines
  · refine (View.Document.forall_numbers_decorations_iff correlation).mpr fun entry among => ?_
    obtain ⟨first, short⟩ := line_of_correlate correlated among
    refine ⟨short, ?_, lengths entry among⟩
    rw [isShort_iff] at short ⊢
    omega

end

end ListingAtlas
