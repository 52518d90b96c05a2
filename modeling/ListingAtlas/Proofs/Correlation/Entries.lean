import ListingAtlas.Correlation.Assembly

/-!
The entries of blocks. Where the lines of the blocks count from one and there is a color to show,
assembling cannot fail: each block becomes one entry, and the entries are in the order of the
source, in whatever order the blocks are.
-/

namespace ListingAtlas

/-! ### One entry -/

/-- The text that stands for a line: beyond the end that of the last line, and without any lines
the empty text. -/
def shownText (lines : List String) (sourceLine : Int) : String :=
  (lines[(min sourceLine lines.length - 1).toNat]?).getD ""

/-- An entry presents a block: it holds the text of its line, its instructions joined, and the color
that the number of the line alone decides. -/
structure Entry.Presents (palette : Palette) (separator : String) (lines : List String)
    (block : Int × List String) (entry : Entry) : Prop where
  sourceLine : entry.sourceLine = block.1
  sourceText : entry.sourceText = shownText lines block.1
  assemblyText : entry.assemblyText = separator.intercalate block.2
  displayColor : palette[(11 * block.1 % palette.length).toNat]? = some entry.displayColor

theorem sourceTextAt_eq_ok (lines : List String) {sourceLine : Int} (first : 1 ≤ sourceLine) :
    sourceTextAt lines sourceLine = .ok (shownText lines sourceLine) := by
  unfold sourceTextAt shownText
  cases lines with
  | nil => rfl
  | cons line lines =>
      have reachable : leastIndex ≤ 0 := by decide
      have positive : 0 < (line :: lines).length := Nat.succ_pos _
      generalize (line :: lines) = lines at positive
      have inRange : (min sourceLine lines.length - 1).toNat < lines.length := by omega
      have notEmpty : ¬ lines.isEmpty = true := by
        rw [List.isEmpty_iff_length_eq_zero]
        omega
      rw [if_neg notEmpty]
      simp only
      rw [if_neg (by omega : ¬ min sourceLine (lines.length : Int) - 1 < 0), if_neg (by omega),
        if_neg (by omega), List.getElem?_eq_getElem inRange, Option.getD_some]

/-- The text that stands for a line is that of a line there is, if there is any. -/
theorem shownText_cases (lines : List String) (sourceLine : Int) :
    lines = [] ∧ shownText lines sourceLine = "" ∨
      lines[(min sourceLine lines.length - 1).toNat]? = some (shownText lines sourceLine) := by
  by_cases none : lines = []
  · exact Or.inl ⟨none, by rw [none]; rfl⟩
  · have positive := List.length_pos_iff.mpr none
    have inRange : (min sourceLine lines.length - 1).toNat < lines.length := by omega
    right
    rw [shownText, List.getElem?_eq_getElem inRange, Option.getD_some]

/-- Within the source, the clamp to the last line plays no part. -/
theorem getElem?_eq_shownText {lines : List String} {sourceLine : Int} (first : 1 ≤ sourceLine)
    (last : sourceLine ≤ lines.length) :
    lines[(sourceLine - 1).toNat]? = some (shownText lines sourceLine) := by
  have inRange : (sourceLine - 1).toNat < lines.length := by omega
  rw [shownText, Int.min_eq_left last, List.getElem?_eq_getElem inRange, Option.getD_some]

theorem exists_displayColor {palette : Palette} (colors : palette ≠ []) (sourceLine : Int) :
    ∃ color, displayColor palette sourceLine = .ok color ∧
      palette[(11 * sourceLine % palette.length).toNat]? = some color := by
  have positive : 0 < palette.length := List.length_pos_iff.mpr colors
  have least := Int.emod_nonneg (11 * sourceLine) (by omega : (palette.length : Int) ≠ 0)
  have most := Int.emod_lt_of_pos (11 * sourceLine) (by omega : 0 < (palette.length : Int))
  have inRange : (11 * sourceLine % palette.length).toNat < palette.length := by omega
  refine ⟨palette[(11 * sourceLine % palette.length).toNat], ?_,
    List.getElem?_eq_getElem inRange⟩
  unfold displayColor colorSpread
  rw [Int.fmod_eq_emod_of_nonneg _ (by omega), Int.mul_comm, List.getElem?_eq_getElem inRange]

/-- The entry of a block, for a palette with colors; no other block has a part in it. -/
def presented (palette : Palette) (separator : String) (lines : List String)
    (block : Int × List String) : Entry :=
  { sourceLine := block.1
    sourceText := shownText lines block.1
    assemblyText := separator.intercalate block.2
    displayColor := (palette[(11 * block.1 % palette.length).toNat]?).getD "" }

section

variable {palette : Palette} (colors : palette ≠ []) (separator : String) (lines : List String)

include colors

theorem presents_presented (block : Int × List String) :
    (presented palette separator lines block).Presents palette separator lines block := by
  obtain ⟨color, _found, colorAt⟩ := exists_displayColor colors block.1
  exact
    { sourceLine := rfl
      sourceText := rfl
      assemblyText := rfl
      displayColor := by rw [presented, colorAt, Option.getD_some] }

theorem makeEntry_eq_presented {block : Int × List String} (first : 1 ≤ block.1) :
    makeEntry palette separator lines block = .ok (presented palette separator lines block) := by
  obtain ⟨color, found, colorAt⟩ := exists_displayColor colors block.1
  unfold makeEntry presented
  rw [sourceTextAt_eq_ok lines first, found, colorAt]
  rfl

/-! ### All entries -/

theorem mapM_makeEntry_eq_presented {items : List (Int × List String)}
    (positive : ∀ block ∈ items, 1 ≤ block.1) :
    items.mapM (makeEntry palette separator lines) =
      .ok (items.map (presented palette separator lines)) := by
  induction items with
  | nil => rfl
  | cons block items ih =>
      rw [List.forall_mem_cons] at positive
      rw [List.mapM_cons, makeEntry_eq_presented colors separator lines positive.1,
        ih positive.2]
      rfl

theorem assemble_eq_presented {blocks : Listing.Blocks}
    (positive : ∀ sourceLine ∈ blocks.keys, 1 ≤ sourceLine) :
    assemble palette separator lines blocks =
      .ok ((blocks.items.map (presented palette separator lines)).mergeSort
        fun first second => first.sourceLine ≤ second.sourceLine) := by
  rw [assemble, mapM_makeEntry_eq_presented colors separator lines fun block member =>
    positive block.1 (List.mem_map_of_mem member)]
  rfl

end

theorem sourceLines_presented (palette : Palette) (separator : String) (lines : List String)
    (blocks : Listing.Blocks) :
    (blocks.items.map (presented palette separator lines)).map Entry.sourceLine = blocks.keys :=
  List.map_map

/-- Entries present blocks: they ascend, each block has one, and there are no others. -/
structure PresentsAll (palette : Palette) (separator : String) (lines : List String)
    (blocks : Listing.Blocks) (entries : List Entry) : Prop where
  ascending : entries.Pairwise fun earlier later => earlier.sourceLine < later.sourceLine
  complete : ∀ sourceLine, (∃ entry ∈ entries, entry.sourceLine = sourceLine) ↔
    sourceLine ∈ blocks.keys
  each : ∀ entry ∈ entries, ∃ block, blocks.get? entry.sourceLine = some block ∧
    entry.Presents palette separator lines (entry.sourceLine, block)

section

variable {entries : List Entry}

/-- Sorting entries of distinct lines leaves no two neighbours alike. -/
theorem pairwise_mergeSort_lt (distinct : (entries.map Entry.sourceLine).Nodup) :
    (entries.mergeSort fun first second => first.sourceLine ≤ second.sourceLine).Pairwise
      fun earlier later => earlier.sourceLine < later.sourceLine := by
  have ordered : (entries.mergeSort fun first second =>
      first.sourceLine ≤ second.sourceLine).Pairwise
      fun earlier later => decide (earlier.sourceLine ≤ later.sourceLine) = true := by
    apply List.pairwise_mergeSort
    · intro first second third
      simp only [decide_eq_true_eq]
      omega
    · intro first second
      simp only [Bool.or_eq_true, decide_eq_true_eq]
      omega
  have sorted := (List.mergeSort_perm entries fun first second =>
    first.sourceLine ≤ second.sourceLine).map Entry.sourceLine
  have apart := List.pairwise_map.mp (sorted.nodup_iff.mpr distinct)
  refine (ordered.and apart).imp ?_
  rintro earlier later ⟨notAfter, different⟩
  rw [decide_eq_true_eq] at notAfter
  omega

/-- Entries of distinct lines are in one order only when they are sorted. -/
theorem mergeSort_eq_of_perm {others : List Entry} (same : others.Perm entries)
    (distinct : (entries.map Entry.sourceLine).Nodup) :
    (others.mergeSort fun first second => first.sourceLine ≤ second.sourceLine) =
      entries.mergeSort fun first second => first.sourceLine ≤ second.sourceLine := by
  have sorted := pairwise_mergeSort_lt distinct
  have sortedToo := pairwise_mergeSort_lt
    (((same.map Entry.sourceLine).nodup_iff).mpr distinct)
  refine List.Perm.eq_of_pairwise ?_ sortedToo sorted
    ((List.mergeSort_perm others _).trans (same.trans (List.mergeSort_perm entries _).symm))
  intro one other _among _amongToo before behind
  omega

end

theorem exists_assemble {palette : Palette} (colors : palette ≠ []) (separator : String)
    (lines : List String) {blocks : Listing.Blocks}
    (positive : ∀ sourceLine ∈ blocks.keys, 1 ≤ sourceLine) :
    ∃ entries, assemble palette separator lines blocks = .ok entries ∧
      PresentsAll palette separator lines blocks entries := by
  have keys := sourceLines_presented palette separator lines blocks
  have sorted := List.mergeSort_perm (blocks.items.map (presented palette separator lines))
    fun first second => first.sourceLine ≤ second.sourceLine
  refine ⟨_, assemble_eq_presented colors separator lines positive, ?_⟩
  refine
    { ascending := pairwise_mergeSort_lt (by rw [keys]; exact blocks.distinct)
      complete := ?_
      each := ?_ }
  · intro sourceLine
    rw [← keys, List.mem_map]
    simp only [sorted.mem_iff]
  · intro entry member
    obtain ⟨block, known, rfl⟩ := List.mem_map.mp (sorted.mem_iff.mp member)
    exact ⟨block.2, (Table.get?_eq_some_iff _ _ _).mpr known,
      presents_presented colors separator lines block⟩

/-! ### The order of the blocks -/

/-- With colors to show, blocks for lines that count from one are assembled without failure. Sorted
by their lines, the entries are one for each block, and each is decided by its own line and block:
it holds the text of its line, or of the last one if it is beyond the end, or no text if there are
no lines. The order of the blocks plays no part. -/
theorem assemble_sorts_blocks {palette : Palette} (colors : palette ≠ []) (separator : String)
    (lines : List String) {blocks : Listing.Blocks}
    (positive : ∀ sourceLine ∈ blocks.keys, 1 ≤ sourceLine) :
    ∃ entries, assemble palette separator lines blocks = .ok entries ∧
      (entries.Pairwise fun earlier later => earlier.sourceLine < later.sourceLine) ∧
      entries.Perm (blocks.items.map (presented palette separator lines)) ∧
      (∀ block ∈ blocks.items,
        let entry := presented palette separator lines block
        entry.sourceLine = block.1 ∧
          (lines = [] ∧ entry.sourceText = "" ∨
            lines[(min block.1 lines.length - 1).toNat]? = some entry.sourceText) ∧
          entry.assemblyText = separator.intercalate block.2 ∧
          palette[(11 * block.1 % palette.length).toNat]? = some entry.displayColor) ∧
      ∀ other : Listing.Blocks, other.items.Perm blocks.items →
        assemble palette separator lines other = .ok entries := by
  have distinct : ((blocks.items.map (presented palette separator lines)).map
      Entry.sourceLine).Nodup := by
    rw [sourceLines_presented]
    exact blocks.distinct
  refine ⟨_, assemble_eq_presented colors separator lines positive,
    pairwise_mergeSort_lt distinct, List.mergeSort_perm _ _, ?_, ?_⟩
  · intro block _member entry
    have presents := presents_presented colors separator lines block
    exact ⟨rfl, shownText_cases lines block.1, rfl, presents.displayColor⟩
  · intro other same
    have positiveToo : ∀ sourceLine ∈ other.keys, 1 ≤ sourceLine := fun sourceLine member =>
      positive sourceLine ((same.map Prod.fst).mem_iff.mp member)
    rw [assemble_eq_presented colors separator lines positiveToo,
      mergeSort_eq_of_perm (same.map _) distinct]

/-- Three blocks from the last to the first and the other way round, one of them beyond the end. -/
theorem assemble_sorts_blocks_beyond_end :
    let lines := ["int x;", "int y;"]
    let blocks : Listing.Blocks := Table.ofPairs [(9, ["\tret"]), (2, ["\tmov", "\tpop"]), (1, [])]
    let other : Listing.Blocks := Table.ofPairs [(1, []), (2, ["\tmov", "\tpop"]), (9, ["\tret"])]
    defaultPalette ≠ [] ∧ (∀ sourceLine ∈ blocks.keys, 1 ≤ sourceLine) ∧
      other.items.Perm blocks.items ∧ ∃ entries,
        assemble defaultPalette "\n" lines blocks = .ok entries ∧
        assemble defaultPalette "\n" lines other = .ok entries ∧ entries.length = 3 ∧
        ∃ entry ∈ entries, entry.sourceLine = 9 ∧ entry.sourceText = "int y;" := by
  intro lines blocks other
  have colors : defaultPalette ≠ [] := by decide
  have positive : ∀ sourceLine ∈ blocks.keys, 1 ≤ sourceLine := by decide
  have same : other.items.Perm blocks.items := by decide
  obtain ⟨entries, assembled, _ascending, each, decided, anyOrder⟩ :=
    assemble_sorts_blocks colors "\n" lines positive
  have beyond : ((9, ["\tret"]) : Int × List String) ∈ blocks.items := by decide
  have shown := each.mem_iff.mpr (List.mem_map_of_mem beyond)
  obtain ⟨line, text, _joined, _color⟩ := decided _ beyond
  have lastLine : lines[(min (9 : Int) lines.length - 1).toNat]? = some "int y;" := by decide
  refine ⟨colors, positive, same, entries, assembled, anyOrder other same,
    each.length_eq.trans (by decide), _, shown, line, ?_⟩
  rcases text with ⟨none, _empty⟩ | found
  · exact absurd none (List.cons_ne_nil _ _)
  · exact Option.some.inj (found.symm.trans lastLine)

end ListingAtlas
