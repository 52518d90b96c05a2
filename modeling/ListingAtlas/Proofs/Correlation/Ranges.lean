import Mathlib.Data.List.Forall2
import ListingAtlas.Proofs.Correlation.Entries
import ListingAtlas.Proofs.Listing.Endings
import ListingAtlas.Proofs.Listing.Reading
import ListingAtlas.View

/-!
What correlating a listing with a source document comes to, from the listing to the ranges that an
editor decorates. The numbers of the entries are lines of the document, since only such lines are
given blocks, so that each entry holds its own line and each range ends where this line ends.
-/

namespace ListingAtlas

/-! ### Ranges of a document of decorations -/

namespace View.Document

/-- A place in a document; lines and characters count from zero. -/
structure Position where
  line : Int
  character : Int
deriving DecidableEq, Repr

structure Range where
  start : Position
  stop : Position
deriving DecidableEq, Repr

def position? (value : Json String) : Option Position := do
  let fields ← value.record?
  let line ← (Json.field? fields "line").bind Json.int?
  let character ← (Json.field? fields "character").bind Json.int?
  return { line, character }

/-- The range that a decoration gives. -/
def range? (decoration : Json String) : Option Range := do
  let fields ← decoration.record?
  let range ← (Json.field? fields "range").bind Json.record?
  let start ← (Json.field? range "start").bind position?
  let stop ← (Json.field? range "end").bind position?
  return { start, stop }

/-- The ranges of all decorations of a document, in their order. -/
def ranges? (document : Json String) : Option (List Range) := do
  let fields ← document.record?
  let items ← (Json.field? fields "decorations").bind Json.list?
  items.mapM range?

/-- A range covers a line of a source if it goes from the start of the line to its end. -/
def Range.Covers (range : Range) (lines : List String) (index : Nat) : Prop :=
  ∃ text, lines[index]? = some text ∧ range.start = ⟨index, 0⟩ ∧ range.stop = ⟨index, text.length⟩

def entryRange (entry : Entry) : Range :=
  { start := ⟨entry.sourceLine - 1, 0⟩
    stop := ⟨entry.sourceLine - 1, entry.sourceText.length⟩ }

theorem range?_decoration (entry : Entry) :
    range? (decoration entry) = some (entryRange entry) := rfl

theorem mapM_range?_decoration (entries : List Entry) :
    (entries.map decoration).mapM range? = some (entries.map entryRange) := by
  induction entries with
  | nil => rfl
  | cons entry entries ih =>
      rw [List.map_cons, List.mapM_cons, range?_decoration, ih]
      rfl

theorem ranges?_decorations (correlation : Correlation) :
    ranges? (decorations correlation) = some (correlation.entries.map entryRange) :=
  mapM_range?_decoration correlation.entries

end View.Document

/-! ### From the listing to the ranges -/

theorem Entry.covers_of_within {lines : List String} {entry : Entry} (first : 1 ≤ entry.sourceLine)
    (text : lines[(entry.sourceLine - 1).toNat]? = some entry.sourceText) :
    (View.Document.entryRange entry).Covers lines (entry.sourceLine - 1).toNat := by
  have index : entry.sourceLine - 1 = ((entry.sourceLine - 1).toNat : Int) := by omega
  refine ⟨entry.sourceText, text, ?_, ?_⟩
  · rw [View.Document.entryRange, ← index]
  · rw [View.Document.entryRange, ← index]

theorem forall₂_map_entryRange {entries : List Entry} {Fits : Entry → View.Document.Range → Prop}
    (each : ∀ entry ∈ entries, Fits entry (View.Document.entryRange entry)) :
    List.Forall₂ Fits entries (entries.map View.Document.entryRange) := by
  rw [List.forall₂_map_right_iff, List.forall₂_same]
  exact each

theorem correlate_of_error {dialect : Listing.Dialect} {presentation : Presentation}
    {listing target source : String} {failure : Failure} (name : String)
    (failed : Listing.blocksOf dialect
      { path := target, lineCount := (sourceLines source).length } listing = .error failure) :
    correlate dialect presentation listing target source name = .error failure := by
  unfold correlate
  simp only
  rw [failed]
  rfl

theorem correlate_of_assemble {dialect : Listing.Dialect} {presentation : Presentation}
    {listing target source separator : String} {blocks : Listing.Blocks} {entries : List Entry}
    (name : String) (separated : presentation.separator = .ok separator)
    (attributed : Listing.blocksOf dialect
      { path := target, lineCount := (sourceLines source).length } listing = .ok blocks)
    (assembled : assemble presentation.palette separator (sourceLines source) blocks =
      .ok entries) :
    correlate dialect presentation listing target source name =
      .ok { sourceName := name, entries } := by
  unfold correlate
  simp only
  rw [attributed, separated]
  change (assemble presentation.palette separator (sourceLines source) blocks).bind _ = _
  rw [assembled]
  rfl

/-- An empty listing has no entries. -/
theorem correlate_nothing (target source name : String) {separator : String}
    {presentation : Presentation} (separated : presentation.separator = .ok separator) :
    correlate Listing.Msvc.dialect presentation "" target source name =
      .ok { sourceName := name, entries := [] } := by
  have lines : Text.linesAtFeeds "" = [""] := by decide
  have nothing : Listing.blocksOf Listing.Msvc.dialect
      { path := target, lineCount := (sourceLines source).length } "" = .ok Table.empty := by
    rw [Listing.blocksOf, lines, Listing.blocksOfLines_single]
  apply correlate_of_assemble name separated nothing
  unfold assemble Table.empty
  simp only [List.mapM_nil, pure, Except.pure, Except.map, List.mergeSort_nil]

/-- With colors to show and a separator, correlating fails only as attributing does. What it gives
has, in the order of the source, one entry for each block; its line is one of the document, its
text just this line, and the range that decorates it covers this line from end to end. -/
theorem correlate_presents_blocks (dialect : Listing.Dialect) (presentation : Presentation)
    (listing target source name : String) {separator : String}
    (colors : presentation.palette ≠ []) (separated : presentation.separator = .ok separator) :
    let lines := sourceLines source
    let attributed := Listing.blocksOf dialect { path := target, lineCount := lines.length } listing
    (∀ failure, attributed = .error failure →
      correlate dialect presentation listing target source name = .error failure) ∧
    ∀ blocks, attributed = .ok blocks → ∃ entries,
      let correlation : Correlation := { sourceName := name, entries }
      correlate dialect presentation listing target source name = .ok correlation ∧
      (entries.Pairwise fun earlier later => earlier.sourceLine < later.sourceLine) ∧
      (∀ sourceLine, (∃ entry ∈ entries, entry.sourceLine = sourceLine) ↔
        sourceLine ∈ blocks.keys) ∧
      (∀ entry ∈ entries, 1 ≤ entry.sourceLine ∧ entry.sourceLine ≤ lines.length ∧
        lines[(entry.sourceLine - 1).toNat]? = some entry.sourceText ∧
        (∃ block, blocks.get? entry.sourceLine = some block ∧
          entry.assemblyText = separator.intercalate block) ∧
        presentation.palette[(11 * entry.sourceLine % presentation.palette.length).toNat]? =
          some entry.displayColor) ∧
      ∃ document ranges, View.decorations.content correlation = View.Document.asFile document ∧
        View.Document.ranges? document = some ranges ∧
        List.Forall₂ (fun entry range => range.Covers lines (entry.sourceLine - 1).toNat)
          entries ranges := by
  intro lines attributed
  refine ⟨fun failure failed => correlate_of_error name failed, ?_⟩
  intro blocks found
  have within (sourceLine : Int) (member : sourceLine ∈ blocks.keys) :
      1 ≤ sourceLine ∧ sourceLine ≤ lines.length := Listing.keys_within found member
  obtain ⟨entries, assembled, presents⟩ := exists_assemble colors separator lines
    fun sourceLine member => (within sourceLine member).1
  have inSource (entry : Entry) (member : entry ∈ entries) :
      1 ≤ entry.sourceLine ∧ entry.sourceLine ≤ lines.length :=
    within _ ((presents.complete _).mp ⟨entry, member, rfl⟩)
  have text (entry : Entry) (member : entry ∈ entries) :
      lines[(entry.sourceLine - 1).toNat]? = some entry.sourceText := by
    obtain ⟨block, _known, shown⟩ := presents.each entry member
    obtain ⟨first, last⟩ := inSource entry member
    rw [getElem?_eq_shownText first last, shown.sourceText]
  refine ⟨entries, correlate_of_assemble name separated found assembled, presents.ascending,
    presents.complete, ?_, View.Document.decorations { sourceName := name, entries },
    entries.map View.Document.entryRange, rfl, View.Document.ranges?_decorations _, ?_⟩
  · intro entry member
    obtain ⟨block, known, shown⟩ := presents.each entry member
    obtain ⟨first, last⟩ := inSource entry member
    exact ⟨first, last, text entry member, ⟨block, known, shown.assemblyText⟩,
      shown.displayColor⟩
  · apply forall₂_map_entryRange
    intro entry member
    exact entry.covers_of_within (inSource entry member).1 (text entry member)

/-- Two lines, the last one announced first. -/
theorem correlate_presents_last_line :
    let presentation : Presentation := { palette := defaultPalette, separator := .ok "\r\n" }
    let listing :=
      "; File a.c\n_TEXT SEGMENT\n; 2 : y\n\tmov eax\n\tret\n; 1 : x\n\tpop ebp\n"
    presentation.palette ≠ [] ∧ ∃ entries,
      correlate Listing.Msvc.dialect presentation listing "a.c" "int x;\nint y;" "a.c" =
        .ok { sourceName := "a.c", entries } ∧
      ∃ entry ∈ entries, entry.sourceLine = 2 ∧ entry.sourceText = "int y;" ∧
        entry.assemblyText = "\tmov eax\r\n\tret" ∧ entry.displayColor = "#e5d8bd" := by
  intro presentation listing
  have colors : presentation.palette ≠ [] := by decide
  refine ⟨colors, ?_⟩
  have document : sourceLines "int x;\nint y;" = ["int x;", "int y;"] := by decide +kernel
  have read : (Listing.blocksOf Listing.Msvc.dialect { path := "a.c", lineCount := 2 }
      listing).toOption.map Table.items =
      some [(2, ["\tmov eax", "\tret"]), (1, ["\tpop ebp"])] := by
    decide +kernel
  have presented := correlate_presents_blocks Listing.Msvc.dialect presentation listing "a.c"
    "int x;\nint y;" "a.c" colors rfl
  rw [document] at presented
  cases attributed : Listing.blocksOf Listing.Msvc.dialect { path := "a.c", lineCount := 2 }
      listing with
  | error failure =>
      rw [attributed] at read
      cases read
  | ok blocks =>
      rw [attributed] at read
      have items : blocks.items = [(2, ["\tmov eax", "\tret"]), (1, ["\tpop ebp"])] :=
        Option.some.inj read
      obtain ⟨entries, correlated, _ascending, complete, each, _ranges⟩ :=
        presented.2 blocks attributed
      have known : (2 : Int) ∈ blocks.keys := by
        rw [Table.keys, items]
        decide
      obtain ⟨entry, member, second⟩ := (complete 2).mpr known
      obtain ⟨_first, _last, text, ⟨block, found, joined⟩, color⟩ := each entry member
      rw [second] at text found color
      rw [Table.get?_eq_some_iff, items] at found
      have same : block = ["\tmov eax", "\tret"] := by simpa using found
      have seventh : defaultPalette[(11 * 2 % (defaultPalette.length : Int)).toNat]? =
          some "#e5d8bd" := by
        decide
      refine ⟨entries, correlated, entry, member, second, (Option.some.inj text).symm, ?_,
        Option.some.inj (color.symm.trans seventh)⟩
      rw [joined, same]
      decide +kernel

end ListingAtlas
