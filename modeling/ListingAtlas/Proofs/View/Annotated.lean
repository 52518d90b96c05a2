import ListingAtlas.Proofs.Correlation.Ranges
import ListingAtlas.Proofs.Correlation.SourceLines
import ListingAtlas.Proofs.Listing.Endings
import ListingAtlas.Proofs.Outcome
import ListingAtlas.Proofs.Text.Lines

/-!
The annotated listing read back. With carriage returns and line feeds between them, the instructions
of an entry are those of its block, returns in them included; and since an instruction is indented
and a line of a source holds no line feed, the header lines tell where each block begins.
-/

namespace ListingAtlas

/-! ### Lines joined and broken again -/

namespace Text

/-- Lines that are joined by a return and a feed each are found again, whatever returns they hold. -/
theorem linesAtFeeds_intercalate {lines : List String} (nonempty : lines ≠ [])
    (plain : ∀ line ∈ lines, '\n' ∉ line.toList) :
    linesAtFeeds ("\r\n".intercalate lines) = lines := by
  have alike := joined_alike true lines
  change _ = "\r\n".intercalate lines at alike
  rw [← alike]
  exact linesAtFeeds_joined nonempty plain fun _index _line none => nomatch none

end Text

/-! ### What entries are made of -/

theorem noFeed_of_sourceTextAt {source text : String} {sourceLine : Int}
    (found : sourceTextAt (sourceLines source) sourceLine = .ok text) : '\n' ∉ text.toList := by
  unfold sourceTextAt at found
  split at found
  · rw [← Except.ok.inj found]
    simp
  · extract_lets index fromStart at found
    split at found
    · cases found
    split at found
    · cases found
    split at found
    · rename_i line atIndex
      rw [← Except.ok.inj found]
      exact not_mem_of_sourceLines (List.mem_of_getElem? atIndex) (Or.inl rfl)
    · cases found

theorem block_of_assembled {palette : Palette} {separator : String} {lines : List String}
    {blocks : Listing.Blocks} {entries : List Entry}
    (assembled : assemble palette separator lines blocks = .ok entries) {entry : Entry}
    (member : entry ∈ entries) :
    ∃ block, blocks.get? entry.sourceLine = some block ∧
      entry.assemblyText = separator.intercalate block ∧
      sourceTextAt lines entry.sourceLine = .ok entry.sourceText := by
  obtain ⟨made, given, sorted⟩ := map_eq_ok_iff.mp assembled
  rw [← sorted, (List.mergeSort_perm made _).mem_iff] at member
  obtain ⟨block, known, makes⟩ := exists_item_of_mapM given entry member
  obtain ⟨text, shown, colored⟩ := bind_eq_ok_iff.mp makes
  obtain ⟨color, _found, whole⟩ := bind_eq_ok_iff.mp colored
  rw [← Except.ok.inj whole]
  exact ⟨block.2, (Table.get?_eq_some_iff _ _ _).mpr known, rfl, shown⟩

/-! ### What blocks are made of -/

namespace Listing

/-- A block has an instruction, and no line of it is anything else. -/
theorem instructions_of_block {dialect : Dialect} {target : Target} {listing : String}
    {blocks : Blocks} (attributed : blocksOf dialect target listing = .ok blocks)
    {sourceLine : Int} {block : List String} (found : blocks.get? sourceLine = some block) :
    block ≠ [] ∧ ∀ line ∈ block, '\n' ∉ line.toList ∧ dialect.classify line = .instruction := by
  obtain ⟨last, ran, rfl⟩ := map_eq_ok_iff.mp attributed
  have sound := (fed_of_run ran).sound (State.sound_initial dialect target)
  obtain ⟨_within, nonempty, instructions⟩ := sound.block sourceLine block found
  refine ⟨nonempty, fun line member => ⟨?_, instructions line member⟩⟩
  obtain ⟨characters, broken, rfl⟩ := List.mem_map.mp (mem_lines_of_block attributed found line member)
  rw [String.toList_ofList]
  exact Text.not_mem_of_breakLines (Or.inl rfl) listing.toList characters broken

theorem Msvc.tab_of_instruction {line : String}
    (instruction : Msvc.dialect.classify line = .instruction) :
    ∃ rest, line.toList = '\t' :: rest := by
  have indented : Msvc.isInstruction line = true := by
    unfold Dialect.classify at instruction
    repeat
      split at instruction
      · cases instruction
    split at instruction
    · assumption
    · cases instruction
  obtain ⟨rest, whole⟩ := List.isPrefixOf_iff_prefix.mp indented
  exact ⟨rest, whole.symm⟩

/-- A block has an instruction, and each instruction is one line behind a tab. -/
structure Indented (block : List String) : Prop where
  nonempty : block ≠ []
  each : ∀ line ∈ block, '\n' ∉ line.toList ∧ ∃ rest, line.toList = '\t' :: rest

theorem indented_of_block {target : Target} {listing : String} {blocks : Blocks}
    (attributed : blocksOf Msvc.dialect target listing = .ok blocks) {sourceLine : Int}
    {block : List String} (found : blocks.get? sourceLine = some block) : Indented block := by
  obtain ⟨nonempty, instructions⟩ := instructions_of_block attributed found
  refine ⟨nonempty, fun line member => ?_⟩
  obtain ⟨plain, instruction⟩ := instructions line member
  exact ⟨plain, Msvc.tab_of_instruction instruction⟩

/-- Indented instructions are some text, however they are joined. -/
theorem Indented.assemblyLines {block : List String} (indented : Indented block) {entry : Entry}
    {separator : String} (joined : entry.assemblyText = separator.intercalate block) :
    entry.assemblyLines = Text.linesAtFeeds (separator.intercalate block) := by
  have written : entry.assemblyText.isEmpty = false := by
    rw [← Bool.not_eq_true, String.isEmpty_iff, joined, ← String.toList_eq_nil_iff,
      String.toList_intercalate]
    cases block with
    | nil => exact absurd rfl indented.nonempty
    | cons line lines =>
        obtain ⟨_plain, rest, tab⟩ := indented.each line List.mem_cons_self
        cases lines with
        | nil => simp [tab]
        | cons next lines => simp [tab, List.intercalate_cons_cons]
  rw [Entry.assemblyLines, written, joined]
  rfl

end Listing

/-- What is shown of an entry can be told from what is around it: its texts hold no line feed, and
its instructions are indented. -/
structure Entry.Readable (entry : Entry) : Prop where
  sourceText : '\n' ∉ entry.sourceText.toList
  lines : ∀ line ∈ entry.assemblyLines, '\n' ∉ line.toList ∧ ∃ rest, line.toList = '\t' :: rest

/-! ### Reading an annotated listing -/

namespace View.Annotated

/-- The lines of a text that a line feed ends, feeds being all that ends a line. -/
def fedLines (content : String) : List String :=
  ((content.toList.splitOn '\n').map String.ofList).dropLast

/-- The source text behind the mark of a header line. -/
def headerText? (line : String) : Option String :=
  if headerMark.toList.isPrefixOf line.toList then
    some (String.ofList (line.toList.drop headerMark.toList.length))
  else none

/-- The lines before the first header, and for each header its text and the lines up to the next. -/
def sectionsOf : List String → List String × List (String × List String)
  | [] => ([], [])
  | line :: lines =>
      let (block, sections) := sectionsOf lines
      match headerText? line with
      | some text => ([], (text, block) :: sections)
      | none => (line :: block, sections)

def readSections (content : String) : List (String × List String) :=
  (sectionsOf (fedLines content)).2

theorem headerText?_header (text : String) : headerText? (headerMark ++ text) = some text := by
  have marked : headerMark.toList.isPrefixOf (headerMark ++ text).toList = true := by
    rw [String.toList_append, List.isPrefixOf_iff_prefix]
    exact List.prefix_append _ _
  rw [headerText?, if_pos marked, String.toList_append, List.drop_left, String.ofList_toList]

theorem sectionsOf_block {block : List String} (plain : ∀ line ∈ block, headerText? line = none)
    (rest : List String) :
    sectionsOf (block ++ rest) = (block ++ (sectionsOf rest).1, (sectionsOf rest).2) := by
  induction block with
  | nil => rfl
  | cons line block ih =>
      rw [List.forall_mem_cons] at plain
      rw [List.cons_append, sectionsOf, ih plain.2, plain.1]
      rfl

theorem sectionsOf_entries {entries : List Entry}
    (plain : ∀ entry ∈ entries, ∀ line ∈ entry.assemblyLines, headerText? line = none) :
    sectionsOf (entries.flatMap entryLines) =
      ([], entries.map fun entry => (entry.sourceText, entry.assemblyLines)) := by
  induction entries with
  | nil => rfl
  | cons entry entries ih =>
      rw [List.forall_mem_cons] at plain
      rw [List.flatMap_cons, entryLines, List.cons_append, sectionsOf, sectionsOf_block plain.1,
        ih plain.2, headerText?_header]
      simp

theorem fedLines_render {lines : List String} (nonempty : lines ≠ [])
    (plain : ∀ line ∈ lines, '\n' ∉ line.toList) :
    fedLines ("\n".intercalate lines ++ "\n") = lines := by
  have feed : "\n".toList = ['\n'] := rfl
  have ended : ("\n".intercalate lines ++ "\n").toList =
      ['\n'].intercalate (lines.map String.toList ++ [[]]) := by
    rw [Text.intercalate_concat_nil (by simpa using nonempty), String.toList_append,
      String.toList_intercalate, feed]
  have separate : ∀ part ∈ lines.map String.toList ++ [[]], '\n' ∉ part := by
    rw [List.forall_mem_append, List.forall_mem_map]
    exact ⟨plain, by simp⟩
  rw [fedLines, ended, List.splitOn_intercalate '\n' separate (by simp)]
  simp

end View.Annotated

/-! ### A listing and its annotated listing -/

/-- What a correlation shows: the text of each source line, and its instructions. -/
def Correlation.sections (correlation : Correlation) : List (String × List String) :=
  correlation.entries.map fun entry => (entry.sourceText, entry.assemblyLines)

theorem content_eq_of_sections {correlation other : Correlation}
    (same : correlation.sections = other.sections) :
    View.annotated.content correlation = View.annotated.content other := by
  have lines (correlation : Correlation) :
      correlation.entries.flatMap View.Annotated.entryLines =
        correlation.sections.flatMap fun shown =>
          (View.Annotated.headerMark ++ shown.1) :: shown.2 := by
    rw [Correlation.sections, List.flatMap_map]
    rfl
  have empty (correlation : Correlation) : correlation.isEmpty = correlation.sections.isEmpty := by
    rw [Correlation.sections, List.isEmpty_map, Correlation.isEmpty]
  simp only [View.annotated, View.Annotated.render, lines, empty, same]

section

variable {presentation : Presentation} {listing target source name : String}
  {correlation : Correlation}

/-- Every entry presents a block of the listing, and its source text is one line. -/
theorem exists_block_of_correlate {separator : String}
    (separated : presentation.separator = .ok separator)
    (correlated : correlate Listing.Msvc.dialect presentation listing target source name =
      .ok correlation) :
    ∃ blocks, Listing.blocksOf Listing.Msvc.dialect ⟨target, (sourceLines source).length⟩ listing =
        .ok blocks ∧
      ∀ entry ∈ correlation.entries, '\n' ∉ entry.sourceText.toList ∧
        ∃ block, blocks.get? entry.sourceLine = some block ∧
          entry.assemblyText = separator.intercalate block ∧ Listing.Indented block := by
  obtain ⟨blocks, attributed, rest⟩ := bind_eq_ok_iff.mp correlated
  obtain ⟨chosen, known, rest⟩ := bind_eq_ok_iff.mp rest
  obtain ⟨entries, assembled, whole⟩ := bind_eq_ok_iff.mp rest
  rw [separated, Except.ok.injEq] at known
  subst known
  rw [← Except.ok.inj whole]
  refine ⟨blocks, attributed, fun entry member => ?_⟩
  obtain ⟨block, found, joined, shown⟩ := block_of_assembled assembled member
  exact ⟨noFeed_of_sourceTextAt shown, block, found, joined,
    Listing.indented_of_block attributed found⟩

theorem exists_blocks_of_correlate (separated : presentation.separator = .ok "\r\n")
    (correlated : correlate Listing.Msvc.dialect presentation listing target source name =
      .ok correlation) :
    ∃ blocks, Listing.blocksOf Listing.Msvc.dialect ⟨target, (sourceLines source).length⟩ listing =
        .ok blocks ∧
      ∀ entry ∈ correlation.entries,
        blocks.get? entry.sourceLine = some entry.assemblyLines ∧ entry.Readable := by
  obtain ⟨blocks, attributed, each⟩ := exists_block_of_correlate separated correlated
  refine ⟨blocks, attributed, fun entry member => ?_⟩
  obtain ⟨noFeed, block, found, joined, indented⟩ := each entry member
  have broken : entry.assemblyLines = block := by
    rw [indented.assemblyLines joined]
    exact Text.linesAtFeeds_intercalate indented.nonempty fun line inBlock =>
      (indented.each line inBlock).1
  refine ⟨found.trans (congrArg some broken.symm), noFeed, ?_⟩
  rw [broken]
  exact indented.each

/-- The sections of an annotated listing are found by its header lines. -/
theorem readSections_of_readable (readable : ∀ entry ∈ correlation.entries, entry.Readable)
    (entries : correlation.isEmpty = false) :
    View.Annotated.readSections (View.annotated.content correlation) = correlation.sections := by
  have nonempty : correlation.entries.flatMap View.Annotated.entryLines ≠ [] := by
    cases same : correlation.entries with
    | nil =>
        rw [Correlation.isEmpty, same] at entries
        cases entries
    | cons entry others => simp [View.Annotated.entryLines]
  have plain : ∀ line ∈ correlation.entries.flatMap View.Annotated.entryLines,
      '\n' ∉ line.toList := by
    intro line member
    obtain ⟨entry, among, inEntry⟩ := List.mem_flatMap.mp member
    rcases List.mem_cons.mp inEntry with rfl | inBlock
    · have mark : '\n' ∉ View.Annotated.headerMark.toList := by decide
      rw [String.toList_append, List.mem_append, not_or]
      exact ⟨mark, (readable entry among).sourceText⟩
    · exact ((readable entry among).lines line inBlock).1
  have noHeader : ∀ entry ∈ correlation.entries, ∀ line ∈ entry.assemblyLines,
      View.Annotated.headerText? line = none := by
    intro entry among line inBlock
    obtain ⟨_plain, rest, indented⟩ := (readable entry among).lines line inBlock
    rw [View.Annotated.headerText?, indented]
    rfl
  rw [View.Annotated.readSections]
  simp only [View.annotated, View.Annotated.render, entries, Bool.false_eq_true, if_false]
  rw [View.Annotated.fedLines_render nonempty plain, View.Annotated.sectionsOf_entries noHeader,
    Correlation.sections]

theorem readSections_of_correlate (separated : presentation.separator = .ok "\r\n")
    (correlated : correlate Listing.Msvc.dialect presentation listing target source name =
      .ok correlation) (entries : correlation.isEmpty = false) :
    View.Annotated.readSections (View.annotated.content correlation) = correlation.sections := by
  obtain ⟨_blocks, _attributed, each⟩ := exists_blocks_of_correlate separated correlated
  exact readSections_of_readable (fun entry member => (each entry member).2) entries

/-- With returns and feeds between the instructions, the instructions of each entry are its block,
and the annotated listing alone gives back the text of each line with its block, in order. So two
listings have one annotated listing just if they have the same texts with the same blocks. -/
theorem annotated_loses_nothing (separated : presentation.separator = .ok "\r\n")
    (correlated : correlate Listing.Msvc.dialect presentation listing target source name =
      .ok correlation) (entries : correlation.isEmpty = false) :
    (∃ blocks, Listing.blocksOf Listing.Msvc.dialect ⟨target, (sourceLines source).length⟩ listing =
        .ok blocks ∧
      ∀ entry ∈ correlation.entries,
        blocks.get? entry.sourceLine = some entry.assemblyLines) ∧
    View.Annotated.readSections (View.annotated.content correlation) =
      (correlation.entries.map fun entry => (entry.sourceText, entry.assemblyLines)) ∧
    ∀ {otherPresentation : Presentation} {otherListing otherTarget otherSource otherName : String}
      {other : Correlation}, otherPresentation.separator = .ok "\r\n" →
      correlate Listing.Msvc.dialect otherPresentation otherListing otherTarget otherSource
        otherName = .ok other → other.isEmpty = false →
      (View.annotated.content correlation = View.annotated.content other ↔
        correlation.sections = other.sections) := by
  have read := readSections_of_correlate separated correlated entries
  obtain ⟨blocks, attributed, each⟩ := exists_blocks_of_correlate separated correlated
  refine ⟨⟨blocks, attributed, fun entry member => (each entry member).1⟩, read, ?_⟩
  intro otherPresentation otherListing otherTarget otherSource otherName other otherSeparated
    otherCorrelated otherEntries
  refine ⟨fun same => ?_, content_eq_of_sections⟩
  rw [← read, same, readSections_of_correlate otherSeparated otherCorrelated otherEntries]

end

/-! ### What tells two listings apart -/

def plainPresentation : Presentation :=
  { palette := defaultPalette, separator := .ok "\r\n" }

/-- A listing with one block is correlated to the entry of its line. -/
theorem correlate_one_block {listing source : String} {block : Int × List String} {entry : Entry}
    (read : (Listing.blocksOf Listing.Msvc.dialect ⟨"a.c", (sourceLines source).length⟩
      listing).toOption.map Table.items = some [block])
    (made : makeEntry defaultPalette "\r\n" (sourceLines source) block = .ok entry) :
    correlate Listing.Msvc.dialect plainPresentation listing "a.c" source "a.c" =
      .ok { sourceName := "a.c", entries := [entry] } := by
  cases attributed : Listing.blocksOf Listing.Msvc.dialect
      ⟨"a.c", (sourceLines source).length⟩ listing with
  | error failure =>
      rw [attributed] at read
      cases read
  | ok blocks =>
      rw [attributed] at read
      have items : blocks.items = [block] := Option.some.inj read
      have assembled : assemble defaultPalette "\r\n" (sourceLines source) blocks =
          .ok [entry] := by
        rw [assemble, items, List.mapM_cons, made]
        exact congrArg Except.ok (List.mergeSort_singleton _)
      exact correlate_of_assemble "a.c" rfl attributed assembled

/-- What is shown of a source of one line with some instructions. -/
def oneLine (block : List String) : Correlation :=
  { sourceName := "a.c"
    entries :=
      [{ sourceLine := 1
         sourceText := "int x;"
         assemblyText := "\r\n".intercalate block
         displayColor := "#decbe4" }] }

theorem correlate_one_line {listing : String} {block : List String}
    (read : (Listing.blocksOf Listing.Msvc.dialect ⟨"a.c", 1⟩ listing).toOption.map Table.items =
      some [(1, block)]) :
    correlate Listing.Msvc.dialect plainPresentation listing "a.c" "int x;" "a.c" =
      .ok (oneLine block) := by
  have document : sourceLines "int x;" = ["int x;"] := by decide +kernel
  apply correlate_one_block
  · rw [document]
    exact read
  · rw [document]
    rfl

/-- Returns in the instructions are told. -/
theorem annotated_loses_no_return :
    let listing := "; File a.c\r\n_TEXT SEGMENT\n; 1 : x\n\tmov\ra\r\r\n\tret\r"
    let other := "; File a.c\r\n_TEXT SEGMENT\n; 1 : x\n\tmov\ra\r\n\tret\r"
    plainPresentation.separator = .ok "\r\n" ∧
      ∃ one two : Correlation,
        correlate Listing.Msvc.dialect plainPresentation listing "a.c" "int x;" "a.c" = .ok one ∧
        correlate Listing.Msvc.dialect plainPresentation other "a.c" "int x;" "a.c" = .ok two ∧
        one.isEmpty = false ∧ two.isEmpty = false ∧
        View.Annotated.readSections (View.annotated.content one) =
          [("int x;", ["\tmov\ra\r", "\tret\r"])] ∧
        View.annotated.content one ≠ View.annotated.content two := by
  intro listing other
  have first : correlate Listing.Msvc.dialect plainPresentation listing "a.c" "int x;" "a.c" =
      .ok (oneLine ["\tmov\ra\r", "\tret\r"]) :=
    correlate_one_line (by decide +kernel)
  have second : correlate Listing.Msvc.dialect plainPresentation other "a.c" "int x;" "a.c" =
      .ok (oneLine ["\tmov\ra", "\tret\r"]) :=
    correlate_one_line (by decide +kernel)
  have shows : (oneLine ["\tmov\ra\r", "\tret\r"]).sections =
      [("int x;", ["\tmov\ra\r", "\tret\r"])] := by
    decide +kernel
  have apart : (oneLine ["\tmov\ra\r", "\tret\r"]).sections ≠
      (oneLine ["\tmov\ra", "\tret\r"]).sections := by
    decide +kernel
  obtain ⟨_blocks, read, injective⟩ := annotated_loses_nothing rfl first rfl
  exact ⟨rfl, _, _, first, second, rfl, rfl, read.trans shows,
    fun same => apart ((injective rfl second rfl).mp same)⟩

/-- Which of two lines of the same text a block belongs to is not told. -/
theorem annotated_hides_line :
    let listing := "; File a.c\n_TEXT SEGMENT\n; 1 : x\n\tnop"
    let other := "; File a.c\n_TEXT SEGMENT\n; 2 : x\n\tnop"
    plainPresentation.separator = .ok "\r\n" ∧
      ∃ one two : Correlation,
        correlate Listing.Msvc.dialect plainPresentation listing "a.c" "x\nx" "a.c" = .ok one ∧
        correlate Listing.Msvc.dialect plainPresentation other "a.c" "x\nx" "a.c" = .ok two ∧
        one.isEmpty = false ∧ two.isEmpty = false ∧
        View.annotated.content one = View.annotated.content two ∧ one ≠ two := by
  intro listing other
  have document : sourceLines "x\nx" = ["x", "x"] := by decide +kernel
  have shown {listing : String} (number : Int) (color : String)
      (read : (Listing.blocksOf Listing.Msvc.dialect ⟨"a.c", 2⟩ listing).toOption.map Table.items =
        some [(number, ["\tnop"])])
      (made : makeEntry defaultPalette "\r\n" ["x", "x"] (number, ["\tnop"]) =
        .ok ⟨number, "x", "\tnop", color⟩) :
      correlate Listing.Msvc.dialect plainPresentation listing "a.c" "x\nx" "a.c" =
        .ok { sourceName := "a.c", entries := [⟨number, "x", "\tnop", color⟩] } := by
    apply correlate_one_block
    · rw [document]
      exact read
    · rw [document]
      exact made
  refine ⟨rfl, _, _, shown 1 "#decbe4" (by decide +kernel) rfl,
    shown 2 "#e5d8bd" (by decide +kernel) rfl, rfl, rfl, ?_, ?_⟩
  · exact content_eq_of_sections rfl
  · decide

end ListingAtlas
