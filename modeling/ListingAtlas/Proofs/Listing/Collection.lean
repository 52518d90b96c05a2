import ListingAtlas.Proofs.Listing.Positions
import ListingAtlas.Proofs.Listing.Step

/-!
Reading a listing collects just the lines that its positions call for. The three things that are
known after a part of a listing are what looking back from the next position tells, and the blocks
hold what has been collected up to there.
-/

namespace ListingAtlas.Listing

namespace Source

variable {source : Source} {position : Nat}

/-! ### Positions at which nothing changes -/

theorem not_enters_of_kind {kind : LineKind} (here : source.kindAt? position = some kind)
    (other : kind ≠ .fileDirective) : ¬ source.Enters position := by
  intro enters
  rw [enters.1, Option.some.injEq] at here
  exact other here.symm

theorem inTarget_succ_of_kind {kind : LineKind} (here : source.kindAt? position = some kind)
    (other : kind ≠ .fileDirective) :
    source.InTarget (position + 1) ↔ source.InTarget position := by
  have noDirective : source.kindAt? position ≠ some .fileDirective := by
    rw [here]
    simpa using other
  rw [inTarget_succ_iff]
  constructor
  · rintro (enters | ⟨_other, inTarget⟩)
    · exact absurd enters (not_enters_of_kind here other)
    · exact inTarget
  · exact fun inTarget => Or.inr ⟨noDirective, inTarget⟩

theorem segmentOpen_succ_of_other {kind : LineKind} (here : source.kindAt? position = some kind)
    (stays : ¬ source.Leaves position) (positive : 0 < position) (notOpen : kind ≠ .segmentOpen)
    (notClose : kind ≠ .segmentClose) :
    source.SegmentOpen (position + 1) ↔ source.SegmentOpen position := by
  rw [segmentOpen_succ_iff stays positive, here]
  simp [notOpen, notClose]

theorem current_succ_of_undecided (stays : ¬ source.Leaves position) (positive : 0 < position)
    (undecided : ¬ source.Decides position) (sourceLine : Int) :
    source.Current (position + 1) sourceLine ↔ source.Current position sourceLine := by
  have notAnnounced : ¬ source.Starts position sourceLine := fun starts =>
    undecided (Or.inl starts.2.1.1)
  rw [current_succ_iff stays positive]
  constructor
  · rintro (starts | ⟨_undecided, current⟩)
    · exact absurd starts notAnnounced
    · exact current
  · exact fun current => Or.inr ⟨fun both => undecided both.2, current⟩

theorem not_decides_of_kind {kind : LineKind} (here : source.kindAt? position = some kind)
    (notLine : kind ≠ .lineDirective) (notClose : kind ≠ .segmentClose)
    (notUnindented : kind ≠ .unindented) : ¬ source.Decides position := by
  unfold Decides
  rw [here]
  simp [notLine, notClose, notUnindented]

theorem not_collected_of_kind {kind : LineKind} (here : source.kindAt? position = some kind)
    (other : kind ≠ .instruction) (sourceLine : Int) : ¬ source.Collected position sourceLine := by
  rw [collected_iff, here]
  simp [other]

/-! ### Positions up to one more -/

theorem collected_upTo_succ (count position : Nat) (sourceLine : Int) :
    position ≤ count + 1 ∧ source.Collected position sourceLine ↔
      (position ≤ count ∧ source.Collected position sourceLine) ∨
        position = count + 1 ∧ source.Collected (count + 1) sourceLine := by
  constructor
  · rintro ⟨within, collected⟩
    by_cases last : position = count + 1
    · rw [last] at collected
      exact Or.inr ⟨last, collected⟩
    · exact Or.inl ⟨by omega, collected⟩
  · rintro (⟨within, collected⟩ | ⟨last, collected⟩)
    · exact ⟨by omega, collected⟩
    · rw [last]
      exact ⟨Nat.le_refl _, collected⟩

theorem collected_upTo_succ_of_not {count : Nat} {sourceLine : Int}
    (nothing : ¬ source.Collected (count + 1) sourceLine) (position : Nat) :
    position ≤ count + 1 ∧ source.Collected position sourceLine ↔
      position ≤ count ∧ source.Collected position sourceLine := by
  rw [collected_upTo_succ]
  exact or_iff_left fun last => nothing last.2

end Source

/-! ### What has been gathered -/

/-- Blocks hold what is collected up to a position, each in the order of the listing, and are
themselves in the order in which they begin. -/
structure Gathered (source : Source) (count : Nat) (blocks : Blocks) : Prop where
  block : ∀ sourceLine, ∃ positions : List Nat, positions.Pairwise (· < ·) ∧
    (∀ position, position ∈ positions ↔
      position ≤ count ∧ source.Collected position sourceLine) ∧
    positions.map source.lineAt? = ((blocks.get? sourceLine).getD []).map some
  present : ∀ sourceLine, sourceLine ∈ blocks.keys ↔
    ∃ position ≤ count, source.Collected position sourceLine
  order : blocks.keys.Pairwise fun earlier later =>
    ∃ position, source.Collected position earlier ∧
      ∀ other, source.Collected other later → position < other

theorem Gathered.skip {source : Source} {count : Nat} {blocks : Blocks}
    (gathered : Gathered source count blocks)
    (nothing : ∀ sourceLine, ¬ source.Collected (count + 1) sourceLine) :
    Gathered source (count + 1) blocks where
  block := by
    intro sourceLine
    obtain ⟨positions, ascending, members, texts⟩ := gathered.block sourceLine
    refine ⟨positions, ascending, fun position => ?_, texts⟩
    rw [members, Source.collected_upTo_succ_of_not (nothing sourceLine)]
  present := by
    intro sourceLine
    rw [gathered.present]
    exact exists_congr fun position =>
      (Source.collected_upTo_succ_of_not (nothing sourceLine) position).symm
  order := gathered.order

section

variable {source : Source} {count : Nat} {blocks : Blocks} {sourceLine : Int} {line : String}

/-- A line that is collected comes behind those of its block. -/
theorem Gathered.block_collect (gathered : Gathered source count blocks)
    (atLine : source.lineAt? (count + 1) = some line)
    (collected : source.Collected (count + 1) sourceLine) :
    ∃ positions : List Nat, positions.Pairwise (· < ·) ∧
      (∀ position, position ∈ positions ↔
        position ≤ count + 1 ∧ source.Collected position sourceLine) ∧
      positions.map source.lineAt? =
        (((blocks.append sourceLine line).get? sourceLine).getD []).map some := by
  obtain ⟨positions, ascending, members, texts⟩ := gathered.block sourceLine
  refine ⟨positions ++ [count + 1], ?_, ?_, ?_⟩
  · rw [List.pairwise_append]
    refine ⟨ascending, List.pairwise_singleton _ _, ?_⟩
    intro position member last single
    rw [List.mem_singleton] at single
    have within := ((members position).mp member).1
    omega
  · intro position
    rw [List.mem_append, List.mem_singleton, members, Source.collected_upTo_succ,
      and_iff_left collected]
  · rw [List.map_append, texts, Blocks.get?_append, if_pos rfl, Option.getD_some, List.map_append,
      List.map_singleton, List.map_singleton, atLine]

/-- The keys of the blocks are still in the order in which they begin. -/
theorem Gathered.order_collect (gathered : Gathered source count blocks) :
    (blocks.append sourceLine line).keys.Pairwise fun earlier later =>
      ∃ position, source.Collected position earlier ∧
        ∀ other, source.Collected other later → position < other := by
  rw [Blocks.append, Table.keys_insert]
  split
  · exact gathered.order
  · rename_i unknown
    rw [List.pairwise_append]
    refine ⟨gathered.order, List.pairwise_singleton _ _, ?_⟩
    intro earlier known later single
    rw [List.mem_singleton] at single
    obtain ⟨position, within, old⟩ := (gathered.present earlier).mp known
    refine ⟨position, old, ?_⟩
    intro other now
    by_cases early : other ≤ count
    · rw [single] at now
      exact absurd ((gathered.present sourceLine).mpr ⟨other, early, now⟩) unknown
    · omega

theorem Gathered.collect (gathered : Gathered source count blocks)
    (atLine : source.lineAt? (count + 1) = some line)
    (collected : ∀ other, source.Collected (count + 1) other ↔ other = sourceLine) :
    Gathered source (count + 1) (blocks.append sourceLine line) where
  block := by
    intro other
    by_cases same : other = sourceLine
    · rw [same]
      exact gathered.block_collect atLine ((collected sourceLine).mpr rfl)
    · obtain ⟨positions, ascending, members, texts⟩ := gathered.block other
      have elsewhere : ¬ source.Collected (count + 1) other := fun now => same ((collected other).mp now)
      refine ⟨positions, ascending, fun position => ?_, ?_⟩
      · rw [members, Source.collected_upTo_succ_of_not elsewhere]
      · rw [texts, Blocks.get?_append, if_neg same]
  present := by
    intro other
    rw [Blocks.mem_keys_append, gathered.present]
    constructor
    · rintro (⟨position, within, old⟩ | same)
      · exact ⟨position, by omega, old⟩
      · exact ⟨count + 1, Nat.le_refl _, (collected other).mpr same⟩
    · rintro ⟨position, both⟩
      rcases (Source.collected_upTo_succ count position other).mp both with old | ⟨_last, now⟩
      · exact Or.inl ⟨position, old⟩
      · exact Or.inr ((collected other).mp now)
  order := gathered.order_collect

end

end ListingAtlas.Listing
