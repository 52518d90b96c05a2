import ListingAtlas.Proofs.View.Annotated
import ListingAtlas.Proofs.View.Page

/-!
The separator of instructions, and what is shown. With a return and a feed between them instructions
are found again as they are; with a feed alone, a return at the end of one is taken for a part of the
break behind it. So the two separators show the same just where no instruction but the last of its
block ends in a return.
-/

namespace ListingAtlas

/-! ### Lines with feeds alone between them -/

namespace Text

/-- A feed behind each of some lines takes nothing off them: only the last may end in a return. -/
def BearsFeeds (lines : List String) : Prop :=
  ∀ line ∈ lines.dropLast, line.toList.getLast? ≠ some '\r'

instance (lines : List String) : Decidable (BearsFeeds lines) :=
  inferInstanceAs (Decidable (∀ line ∈ lines.dropLast, line.toList.getLast? ≠ some '\r'))

/-- Lines without the returns that a feed behind them takes. -/
def withoutReturns : List String → List String
  | [] => []
  | [line] => [line]
  | line :: next :: lines =>
      String.ofList (withoutReturn line.toList) :: withoutReturns (next :: lines)

theorem withoutReturn_eq_self_iff (line : List Char) :
    withoutReturn line = line ↔ line.getLast? ≠ some '\r' := by
  constructor
  · intro same last
    have shorter := congrArg List.length same
    rw [withoutReturn, if_pos last, List.length_dropLast] at shorter
    have some := List.length_pos_of_mem (List.mem_of_getLast? last)
    omega
  · intro other
    rw [withoutReturn, if_neg other]

theorem withoutReturns_eq_self_iff (lines : List String) :
    withoutReturns lines = lines ↔ BearsFeeds lines := by
  fun_induction withoutReturns lines with
  | case1 => simp [BearsFeeds]
  | case2 line => simp [BearsFeeds]
  | case3 line next lines ih =>
      have kept : String.ofList (withoutReturn line.toList) = line ↔
          line.toList.getLast? ≠ some '\r' := by
        rw [← String.toList_inj, String.toList_ofList, withoutReturn_eq_self_iff]
      rw [List.cons.injEq, ih, kept, BearsFeeds, BearsFeeds, List.dropLast_cons_cons,
        List.forall_mem_cons]

/-- Lines that are joined by a feed each are found again but for the returns that it takes. -/
theorem linesAtFeeds_intercalate_feed {lines : List String} (nonempty : lines ≠ [])
    (plain : ∀ line ∈ lines, '\n' ∉ line.toList) :
    linesAtFeeds ("\n".intercalate lines) = withoutReturns lines := by
  have separator : "\n".toList = ['\n'] := rfl
  rw [linesAtFeeds, String.toList_intercalate, separator]
  induction lines with
  | nil => exact absurd rfl nonempty
  | cons line lines ih =>
      rw [List.forall_mem_cons] at plain
      cases lines with
      | nil =>
          rw [List.map_singleton, List.intercalate_singleton, breakLines_of_not_mem plain.1]
          simp [withoutReturns]
      | cons next lines =>
          have joined : ['\n'].intercalate ((line :: next :: lines).map String.toList) =
              line.toList ++ '\n' :: ['\n'].intercalate ((next :: lines).map String.toList) := by
            simp [List.intercalate_cons_cons]
          have alone : '\n' ∉ withoutReturn line.toList := fun member =>
            plain.1 ((isPrefix_withoutReturn line.toList).subset member)
          rw [joined, breakLines_feed, breakLines_of_not_mem alone, List.map_append,
            ih (List.cons_ne_nil _ _) plain.2]
          rfl

/-- A tab at the start of a line stays where it is. -/
theorem tab_of_mem_withoutReturns {lines : List String}
    (each : ∀ line ∈ lines, '\n' ∉ line.toList ∧ ∃ rest, line.toList = '\t' :: rest) :
    ∀ line ∈ withoutReturns lines, '\n' ∉ line.toList ∧ ∃ rest, line.toList = '\t' :: rest := by
  fun_induction withoutReturns lines with
  | case1 => exact each
  | case2 line => exact each
  | case3 line next lines ih =>
      rw [List.forall_mem_cons] at each ⊢
      obtain ⟨⟨plain, rest, indented⟩, others⟩ := each
      refine ⟨?_, ih others⟩
      rw [String.toList_ofList]
      constructor
      · exact fun member => plain ((isPrefix_withoutReturn line.toList).subset member)
      · rw [indented]
        cases rest with
        | nil => exact ⟨[], by decide⟩
        | cons character rest => exact ⟨_, withoutReturn_cons '\t' (List.cons_ne_nil _ _)⟩

end Text

/-! ### Entries before their instructions are joined -/

/-- An entry with its instructions still apart. -/
structure Draft where
  sourceLine : Int
  sourceText : String
  displayColor : String
  block : List String

def Draft.join (separator : String) (draft : Draft) : Entry :=
  { sourceLine := draft.sourceLine
    sourceText := draft.sourceText
    assemblyText := separator.intercalate draft.block
    displayColor := draft.displayColor }

def makeDraft (palette : Palette) (lines : List String) (block : Int × List String) :
    Except Failure Draft := do
  let sourceText ← sourceTextAt lines block.1
  let color ← displayColor palette block.1
  return { sourceLine := block.1, sourceText, displayColor := color, block := block.2 }

/-- The drafts of all blocks in the order of the source. -/
def draft (palette : Palette) (lines : List String) (blocks : Listing.Blocks) :
    Except Failure (List Draft) :=
  (blocks.items.mapM (makeDraft palette lines)).map fun drafts =>
    drafts.mergeSort fun first second => first.sourceLine ≤ second.sourceLine

section

variable (palette : Palette) (separator : String) (lines : List String)

theorem makeEntry_eq (block : Int × List String) :
    makeEntry palette separator lines block =
      (makeDraft palette lines block).map (Draft.join separator) := by
  unfold makeEntry makeDraft
  cases sourceTextAt lines block.1 with
  | error failure => rfl
  | ok sourceText =>
      cases displayColor palette block.1 with
      | error failure => rfl
      | ok color => rfl

theorem mapM_makeEntry (items : List (Int × List String)) :
    items.mapM (makeEntry palette separator lines) =
      (items.mapM (makeDraft palette lines)).map (List.map (Draft.join separator)) := by
  induction items with
  | nil => rfl
  | cons item items ih =>
      rw [List.mapM_cons, List.mapM_cons, makeEntry_eq, ih]
      cases makeDraft palette lines item with
      | error failure => rfl
      | ok draft =>
          cases items.mapM (makeDraft palette lines) with
          | error failure => rfl
          | ok drafts => rfl

/-- The separator plays no part before the instructions are joined. -/
theorem assemble_eq_draft (blocks : Listing.Blocks) :
    assemble palette separator lines blocks =
      (draft palette lines blocks).map (List.map (Draft.join separator)) := by
  rw [assemble, draft, mapM_makeEntry]
  cases blocks.items.mapM (makeDraft palette lines) with
  | error failure => rfl
  | ok drafts =>
      have sorted := List.map_mergeSort (f := Draft.join separator)
        (r := fun first second => first.sourceLine ≤ second.sourceLine)
        (s := fun first second => first.sourceLine ≤ second.sourceLine) (l := drafts)
        fun _first _among _second _amongToo => rfl
      exact congrArg Except.ok sorted.symm

end

section

variable {palette : Palette} {lines : List String}

theorem block_of_makeDraft {item : Int × List String} {draft : Draft}
    (makes : makeDraft palette lines item = .ok draft) :
    (draft.sourceLine, draft.block) = item ∧
      sourceTextAt lines draft.sourceLine = .ok draft.sourceText := by
  obtain ⟨text, shown, colored⟩ := bind_eq_ok_iff.mp makes
  obtain ⟨color, _found, whole⟩ := bind_eq_ok_iff.mp colored
  cases whole
  exact ⟨rfl, shown⟩

theorem blocks_of_drafts {items : List (Int × List String)} {drafts : List Draft}
    (each : List.Forall₂ (fun item draft => makeDraft palette lines item = .ok draft) items drafts) :
    (drafts.map fun draft => (draft.sourceLine, draft.block)) = items := by
  induction each with
  | nil => rfl
  | cons makes _rest ih => rw [List.map_cons, ih, (block_of_makeDraft makes).1]

variable {blocks : Listing.Blocks} {drafts : List Draft}

/-- Every block has one draft. -/
theorem perm_of_drafted (drafted : draft palette lines blocks = .ok drafts) :
    (drafts.map fun draft => (draft.sourceLine, draft.block)).Perm blocks.items := by
  obtain ⟨made, given, sorted⟩ := map_eq_ok_iff.mp drafted
  rw [← sorted, ← blocks_of_drafts (forall₂_of_mapM given)]
  exact (List.mergeSort_perm made _).map _

theorem block_of_drafted (drafted : draft palette lines blocks = .ok drafts) {one : Draft}
    (among : one ∈ drafts) : blocks.get? one.sourceLine = some one.block := by
  rw [Table.get?_eq_some_iff, ← (perm_of_drafted drafted).mem_iff]
  exact List.mem_map_of_mem among

theorem sourceText_of_drafted (drafted : draft palette lines blocks = .ok drafts) {one : Draft}
    (among : one ∈ drafts) : sourceTextAt lines one.sourceLine = .ok one.sourceText := by
  obtain ⟨made, given, sorted⟩ := map_eq_ok_iff.mp drafted
  rw [← sorted, (List.mergeSort_perm made _).mem_iff] at among
  obtain ⟨item, _known, makes⟩ := exists_item_of_mapM given one among
  exact (block_of_makeDraft makes).2

theorem forall_block_iff (drafted : draft palette lines blocks = .ok drafts)
    (property : List String → Prop) :
    (∀ item ∈ blocks.items, property item.2) ↔ ∀ one ∈ drafts, property one.block := by
  constructor
  · intro each one among
    exact each _ ((Table.get?_eq_some_iff _ _ _).mp (block_of_drafted drafted among))
  · intro each item known
    obtain ⟨one, among, same⟩ := List.mem_map.mp ((perm_of_drafted drafted).mem_iff.mpr known)
    rw [← same]
    exact each one among

end

/-! ### What is shown of entries -/

/-- Everything that is shown of an entry. -/
def Entry.shown (entry : Entry) : Int × String × String × List String :=
  (entry.sourceLine, entry.sourceText, entry.displayColor, entry.assemblyLines)

section

variable {one other : Correlation}

theorem sections_eq_of_shown (same : one.entries.map Entry.shown = other.entries.map Entry.shown) :
    one.sections = other.sections := by
  have sections (correlation : Correlation) : correlation.sections =
      (correlation.entries.map Entry.shown).map fun shown => (shown.2.1, shown.2.2.2) := by
    rw [List.map_map]
    rfl
  rw [sections, sections, same]

theorem html_eq_of_shown (name : one.sourceName = other.sourceName)
    (same : one.entries.map Entry.shown = other.entries.map Entry.shown) :
    View.html.content one = View.html.content other := by
  have classes (correlation : Correlation) : View.Html.classesOf correlation.entries =
      (correlation.entries.map Entry.shown).foldl
        (fun (classes : View.Html.Classes) shown => classes.add shown.2.2.1) Table.empty := by
    rw [List.foldl_map]
    rfl
  have rows (correlation : Correlation) (classes : View.Html.Classes) :
      correlation.entries.flatMap (View.Html.entryRows classes) =
        (correlation.entries.map Entry.shown).flatMap fun shown =>
          ⟨View.Html.codeClass, shown.1, ";== " ++ shown.2.1⟩ :: shown.2.2.2.map fun line =>
            ⟨(classes.get? shown.2.2.1).getD "", shown.1, line⟩ := by
    rw [List.flatMap_map]
    rfl
  have empty (correlation : Correlation) :
      correlation.isEmpty = (correlation.entries.map Entry.shown).isEmpty := by
    rw [List.isEmpty_map, Correlation.isEmpty]
  simp only [View.html, View.Html.render, View.Html.tableMarkup, rows, classes, empty, name, same]

/-- Pages that are alike show the same annotated listing. -/
theorem annotated_eq_of_html (entries : one.isEmpty = false) (others : other.isEmpty = false)
    (same : View.html.content one = View.html.content other) :
    View.annotated.content one = View.annotated.content other := by
  have rows := View.shownRows?_content entries
  rw [same, View.shownRows?_content others, Option.some.injEq] at rows
  rw [← View.texts_pageRows entries, ← View.texts_pageRows others, rows]

end

/-! ### Both separators -/

/-- A correlation of drafts. -/
def correlationOf (name separator : String) (drafts : List Draft) : Correlation :=
  { sourceName := name, entries := drafts.map (Draft.join separator) }

theorem correlate_eq_draft {presentation : Presentation} {separator : String}
    (separated : presentation.separator = .ok separator) (listing target source name : String) :
    correlate Listing.Msvc.dialect presentation listing target source name =
      ((Listing.blocksOf Listing.Msvc.dialect ⟨target, (sourceLines source).length⟩ listing).bind
        (draft presentation.palette (sourceLines source))).map (correlationOf name separator) := by
  unfold correlate
  simp only
  rw [separated]
  cases Listing.blocksOf Listing.Msvc.dialect ⟨target, (sourceLines source).length⟩ listing with
  | error failure => rfl
  | ok blocks =>
      change (assemble presentation.palette separator (sourceLines source) blocks).bind _ =
        (draft presentation.palette (sourceLines source) blocks).map _
      rw [assemble_eq_draft]
      cases draft presentation.palette (sourceLines source) blocks with
      | error failure => rfl
      | ok drafts => rfl

/-- The separator that a setting of its variable alone decides. -/
theorem separator_of_setting (environment : Environment) (palette : Palette) :
    (Presentation.configured { environment with lineSeparator := some "crlf" } palette).separator =
        .ok "\r\n" ∧
      (Presentation.configured { environment with lineSeparator := some "lf" } palette).separator =
        .ok "\n" := by
  have names : Text.lowercaseChars (Text.trimChars "crlf".toList) = "crlf".toList ∧
      Text.lowercaseChars (Text.trimChars "lf".toList) = "lf".toList := by
    decide +kernel
  simp only [Presentation.configured, loadLineSeparator, Option.getD_some, names,
    String.ofList_toList]
  exact ⟨rfl, rfl⟩

section

variable {draft : Draft}

theorem assemblyLines_join_return (indented : Listing.Indented draft.block) :
    (draft.join "\r\n").assemblyLines = draft.block := by
  rw [indented.assemblyLines rfl]
  exact Text.linesAtFeeds_intercalate indented.nonempty fun line member =>
    (indented.each line member).1

theorem assemblyLines_join_feed (indented : Listing.Indented draft.block) :
    (draft.join "\n").assemblyLines = Text.withoutReturns draft.block := by
  rw [indented.assemblyLines rfl]
  exact Text.linesAtFeeds_intercalate_feed indented.nonempty fun line member =>
    (indented.each line member).1

theorem readable_join_return (indented : Listing.Indented draft.block)
    (oneLine : '\n' ∉ draft.sourceText.toList) : (draft.join "\r\n").Readable := by
  refine ⟨oneLine, ?_⟩
  rw [assemblyLines_join_return indented]
  exact indented.each

theorem readable_join_feed (indented : Listing.Indented draft.block)
    (oneLine : '\n' ∉ draft.sourceText.toList) : (draft.join "\n").Readable := by
  refine ⟨oneLine, ?_⟩
  rw [assemblyLines_join_feed indented]
  exact Text.tab_of_mem_withoutReturns indented.each

end

section

variable {drafts : List Draft}

/-- The instructions of all entries are alike where each block bears feeds. -/
theorem assemblyLines_alike_iff (indented : ∀ draft ∈ drafts, Listing.Indented draft.block)
    (name : String) :
    (correlationOf name "\r\n" drafts).entries.map Entry.assemblyLines =
        (correlationOf name "\n" drafts).entries.map Entry.assemblyLines ↔
      ∀ draft ∈ drafts, Text.BearsFeeds draft.block := by
  unfold correlationOf
  rw [List.map_map, List.map_map, List.map_inj_left]
  refine forall₂_congr fun draft among => ?_
  rw [Function.comp, Function.comp, assemblyLines_join_return (indented draft among),
    assemblyLines_join_feed (indented draft among), eq_comm]
  exact Text.withoutReturns_eq_self_iff draft.block

theorem shown_alike (indented : ∀ draft ∈ drafts, Listing.Indented draft.block)
    (bears : ∀ draft ∈ drafts, Text.BearsFeeds draft.block) (name : String) :
    (correlationOf name "\r\n" drafts).entries.map Entry.shown =
      (correlationOf name "\n" drafts).entries.map Entry.shown := by
  unfold correlationOf
  rw [List.map_map, List.map_map]
  apply List.map_congr_left
  intro draft among
  have lines : (draft.join "\r\n").assemblyLines = (draft.join "\n").assemblyLines := by
    rw [assemblyLines_join_return (indented draft among),
      assemblyLines_join_feed (indented draft among),
      (Text.withoutReturns_eq_self_iff draft.block).mpr (bears draft among)]
  exact congrArg (fun lines => (draft.sourceLine, draft.sourceText, draft.displayColor, lines)) lines

theorem annotated_alike_iff (indented : ∀ draft ∈ drafts, Listing.Indented draft.block)
    (oneLine : ∀ draft ∈ drafts, '\n' ∉ draft.sourceText.toList) (name : String) :
    View.annotated.content (correlationOf name "\r\n" drafts) =
        View.annotated.content (correlationOf name "\n" drafts) ↔
      ∀ draft ∈ drafts, Text.BearsFeeds draft.block := by
  constructor
  · intro same
    rw [← assemblyLines_alike_iff indented name]
    cases drafts with
    | nil => rfl
    | cons first others =>
        let one := correlationOf name "\r\n" (first :: others)
        let other := correlationOf name "\n" (first :: others)
        have returned : View.Annotated.readSections (View.annotated.content one) = one.sections :=
          readSections_of_readable (List.forall_mem_map.mpr fun draft among =>
            readable_join_return (indented draft among) (oneLine draft among)) rfl
        have fed : View.Annotated.readSections (View.annotated.content other) = other.sections :=
          readSections_of_readable (List.forall_mem_map.mpr fun draft among =>
            readable_join_feed (indented draft among) (oneLine draft among)) rfl
        have sections := congrArg (List.map Prod.snd) (returned.symm.trans (same ▸ fed))
        rw [Correlation.sections, Correlation.sections, List.map_map, List.map_map] at sections
        exact sections
  · intro bears
    exact content_eq_of_sections (sections_eq_of_shown (shown_alike indented bears name))

theorem html_alike_iff (indented : ∀ draft ∈ drafts, Listing.Indented draft.block)
    (oneLine : ∀ draft ∈ drafts, '\n' ∉ draft.sourceText.toList) (name : String) :
    View.html.content (correlationOf name "\r\n" drafts) =
        View.html.content (correlationOf name "\n" drafts) ↔
      ∀ draft ∈ drafts, Text.BearsFeeds draft.block := by
  constructor
  · intro same
    cases drafts with
    | nil => exact nofun
    | cons first others =>
        rw [← annotated_alike_iff indented oneLine name]
        exact annotated_eq_of_html rfl rfl same
  · intro bears
    exact html_eq_of_shown rfl (shown_alike indented bears name)

end

/-- What a listing with one block makes of a source of one line. -/
theorem correlate_drafted {setting separator listing : String} {block : List String}
    (separated : (Presentation.configured { lineSeparator := some setting }
      defaultPalette).separator = .ok separator)
    (read : (Listing.blocksOf Listing.Msvc.dialect ⟨"a.c", 1⟩ listing).toOption.map Table.items =
      some [(1, block)]) :
    correlate Listing.Msvc.dialect
        (Presentation.configured { lineSeparator := some setting } defaultPalette)
        listing "a.c" "int x;" "a.c" =
      .ok (correlationOf "a.c" separator [⟨1, "int x;", "#decbe4", block⟩]) := by
  have document : sourceLines "int x;" = ["int x;"] := by decide +kernel
  rw [correlate_eq_draft separated, document]
  change (((Listing.blocksOf Listing.Msvc.dialect ⟨"a.c", 1⟩ listing).bind _).map _) = _
  cases attributed : Listing.blocksOf Listing.Msvc.dialect ⟨"a.c", 1⟩ listing with
  | error failure =>
      rw [attributed] at read
      cases read
  | ok blocks =>
      rw [attributed] at read
      have items : blocks.items = [(1, block)] := Option.some.inj read
      have drafted : draft defaultPalette ["int x;"] blocks =
          .ok [⟨1, "int x;", "#decbe4", block⟩] := by
        rw [draft, items, List.mapM_cons]
        exact congrArg Except.ok (List.mergeSort_singleton _)
      exact congrArg (Except.map _) drafted

/-- With either separator a listing is correlated to the same entries, up to how their instructions
are joined, or not at all. With returns and feeds the instructions are the blocks; with feeds alone
each but the last loses a return at its end. So the instructions, the annotated listing and the page
are the same with both just where every block bears feeds. -/
theorem separators_show_alike_iff (environment : Environment) (palette : Palette)
    (listing target source name : String) :
    let correlated (setting : String) := correlate Listing.Msvc.dialect
      (Presentation.configured { environment with lineSeparator := some setting } palette)
      listing target source name
    (∀ failure, correlated "crlf" = .error failure ↔ correlated "lf" = .error failure) ∧
    ∀ one other, correlated "crlf" = .ok one → correlated "lf" = .ok other →
      ∃ blocks, Listing.blocksOf Listing.Msvc.dialect ⟨target, (sourceLines source).length⟩
          listing = .ok blocks ∧
        one.sourceName = other.sourceName ∧
        List.Forall₂ (fun entry fed =>
          entry.sourceLine = fed.sourceLine ∧ entry.sourceText = fed.sourceText ∧
            entry.displayColor = fed.displayColor ∧
            blocks.get? entry.sourceLine = some entry.assemblyLines ∧
            fed.assemblyLines = Text.withoutReturns entry.assemblyLines)
          one.entries other.entries ∧
        let bears := ∀ item ∈ blocks.items, Text.BearsFeeds item.2
        (one.entries.map Entry.assemblyLines = other.entries.map Entry.assemblyLines ↔ bears) ∧
        (View.annotated.content one = View.annotated.content other ↔ bears) ∧
        (View.html.content one = View.html.content other ↔ bears) := by
  intro correlated
  obtain ⟨returning, feeding⟩ := separator_of_setting environment palette
  have returned := correlate_eq_draft returning listing target source name
  have fed := correlate_eq_draft feeding listing target source name
  constructor
  · intro failure
    change correlate _ _ _ _ _ _ = _ ↔ correlate _ _ _ _ _ _ = _
    rw [returned, fed, map_eq_error_iff, map_eq_error_iff]
    rfl
  · intro one other correlatedOne correlatedOther
    obtain ⟨drafts, drafted, rfl⟩ := map_eq_ok_iff.mp (returned.symm.trans correlatedOne)
    obtain ⟨sameDrafts, draftedToo, rfl⟩ := map_eq_ok_iff.mp (fed.symm.trans correlatedOther)
    have same : sameDrafts = drafts := Except.ok.inj (draftedToo.symm.trans drafted)
    subst same
    obtain ⟨blocks, collected, made⟩ := bind_eq_ok_iff.mp drafted
    have indented : ∀ one ∈ sameDrafts, Listing.Indented one.block := fun one among =>
      Listing.indented_of_block collected (block_of_drafted made among)
    have oneLine : ∀ one ∈ sameDrafts, '\n' ∉ one.sourceText.toList := fun one among =>
      noFeed_of_sourceTextAt (sourceText_of_drafted made among)
    refine ⟨blocks, collected, rfl, ?_, ?_⟩
    · rw [correlationOf, correlationOf, List.forall₂_map_left_iff, List.forall₂_map_right_iff,
        List.forall₂_same]
      intro one among
      have lines := assemblyLines_join_return (indented one among)
      refine ⟨rfl, rfl, rfl, ?_, ?_⟩
      · rw [lines]
        exact block_of_drafted made among
      · rw [lines]
        exact assemblyLines_join_feed (indented one among)
    · rw [forall_block_iff made Text.BearsFeeds]
      exact ⟨assemblyLines_alike_iff indented name, annotated_alike_iff indented oneLine name,
        html_alike_iff indented oneLine name⟩

/-- A return at the end of the last instruction stays with either separator. -/
theorem separators_keep_last_return :
    let listing := "; File a.c\n_TEXT\tSEGMENT\n; 1 : x\n\tnop\n\tret\r\r\n"
    let correlated (setting : String) := correlate Listing.Msvc.dialect
      (Presentation.configured { lineSeparator := some setting } defaultPalette)
      listing "a.c" "int x;" "a.c"
    ∃ one other, correlated "crlf" = .ok one ∧ correlated "lf" = .ok other ∧
      other.entries.map Entry.assemblyLines = [["\tnop", "\tret\r"]] ∧
      View.annotated.content one = View.annotated.content other ∧
      View.html.content one = View.html.content other := by
  intro listing correlated
  obtain ⟨returning, feeding⟩ := separator_of_setting {} defaultPalette
  have read : (Listing.blocksOf Listing.Msvc.dialect ⟨"a.c", 1⟩ listing).toOption.map Table.items =
      some [(1, ["\tnop", "\tret\r"])] := by
    decide +kernel
  have one := correlate_drafted returning read
  have other := correlate_drafted feeding read
  let only : Draft := ⟨1, "int x;", "#decbe4", ["\tnop", "\tret\r"]⟩
  have indented : Listing.Indented only.block := by
    constructor
    · exact List.cons_ne_nil _ _
    · rw [List.forall_mem_cons, List.forall_mem_singleton]
      exact ⟨⟨by decide, _, rfl⟩, by decide, _, rfl⟩
  have first := assemblyLines_join_return indented
  have second := assemblyLines_join_feed indented
  obtain ⟨_, alike⟩ := separators_show_alike_iff {} defaultPalette listing "a.c" "int x;" "a.c"
  obtain ⟨_blocks, _collected, _name, _each, lines, annotated, html⟩ := alike _ _ one other
  have same := congrArg (fun lines => [lines]) (first.trans second.symm)
  exact ⟨_, _, one, other, congrArg (fun lines => [lines]) second,
    annotated.mpr (lines.mp same), html.mpr (lines.mp same)⟩

/-- A return at the end of the first instruction is lost where a feed alone stands behind it. -/
theorem separators_part_at_return :
    let listing := "; File a.c\n_TEXT\tSEGMENT\n; 1 : x\n\tnop\r\r\n\tret"
    let correlated (setting : String) := correlate Listing.Msvc.dialect
      (Presentation.configured { lineSeparator := some setting } defaultPalette)
      listing "a.c" "int x;" "a.c"
    ∃ one other, correlated "crlf" = .ok one ∧ correlated "lf" = .ok other ∧
      one.entries.map Entry.assemblyLines = [["\tnop\r", "\tret"]] ∧
      other.entries.map Entry.assemblyLines = [["\tnop", "\tret"]] ∧
      View.annotated.content one ≠ View.annotated.content other ∧
      View.html.content one ≠ View.html.content other := by
  intro listing correlated
  obtain ⟨returning, feeding⟩ := separator_of_setting {} defaultPalette
  have read : (Listing.blocksOf Listing.Msvc.dialect ⟨"a.c", 1⟩ listing).toOption.map Table.items =
      some [(1, ["\tnop\r", "\tret"])] := by
    decide +kernel
  let only : Draft := ⟨1, "int x;", "#decbe4", ["\tnop\r", "\tret"]⟩
  have indented : ∀ draft ∈ [only], Listing.Indented draft.block := by
    rw [List.forall_mem_singleton]
    constructor
    · exact List.cons_ne_nil _ _
    · rw [List.forall_mem_cons, List.forall_mem_singleton]
      exact ⟨⟨by decide, _, rfl⟩, by decide, _, rfl⟩
  have oneLine : ∀ draft ∈ [only], '\n' ∉ draft.sourceText.toList := by
    rw [List.forall_mem_singleton]
    decide
  have broken : ¬ ∀ draft ∈ [only], Text.BearsFeeds draft.block := by
    rw [List.forall_mem_singleton]
    decide
  have first := List.forall_mem_singleton.mp indented
  refine ⟨_, _, correlate_drafted returning read, correlate_drafted feeding read, ?_, ?_, ?_, ?_⟩
  · exact congrArg (fun lines => [lines]) (assemblyLines_join_return first)
  · exact congrArg (fun lines => [lines]) (assemblyLines_join_feed first)
  · exact fun same => broken ((annotated_alike_iff indented oneLine "a.c").mp same)
  · exact fun same => broken ((html_alike_iff indented oneLine "a.c").mp same)

end ListingAtlas
