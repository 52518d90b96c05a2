import Mathlib.Data.List.Nodup
import ListingAtlas.Proofs.View.Page

/-!
The style classes of a page. Colors are numbered as they are first seen, so that the classes are the
numbers up to how many colors there are; the style rules of the page are theirs, and each row of an
instruction has the class whose rule is the color of its entry.
-/

namespace ListingAtlas.View

open Html (Classes)

/-! ### Numbering the colors -/

def numberedClass (number : Nat) : String := "bgc-" ++ toString number

theorem numberedClass_injective {first second : Nat}
    (same : numberedClass first = numberedClass second) : first = second :=
  toString_injective ((String.append_right_inj "bgc-").mp same)

/-- Classes that stand for the colors seen so far: one for each of them, in the order in which they
were first seen, with the number of those before it. -/
structure Follows (seen : List String) (classes : Classes) : Prop where
  mem_iff : ∀ color, color ∈ classes.keys ↔ color ∈ seen
  ordered : classes.keys.Pairwise fun first second => seen.idxOf first < seen.idxOf second
  numbered : classes.values = (List.range classes.keys.length).map numberedClass

section

variable {seen : List String} {classes : Classes} {color : String}

theorem follows_empty : Follows [] Table.empty where
  mem_iff := fun color => by simp [Table.empty, Table.keys]
  ordered := List.Pairwise.nil
  numbered := rfl

/-- Which color was seen first does not change when more are seen. -/
theorem Follows.ordered_append (follows : Follows seen classes) (more : List String) :
    classes.keys.Pairwise fun first second =>
      (seen ++ more).idxOf first < (seen ++ more).idxOf second := by
  apply follows.ordered.imp_of_mem
  intro first second firstOld secondOld before
  rw [List.idxOf_append_of_mem ((follows.mem_iff first).mp firstOld),
    List.idxOf_append_of_mem ((follows.mem_iff second).mp secondOld)]
  exact before

/-- A color that was seen before changes no class. -/
theorem Follows.again (follows : Follows seen classes) (known : color ∈ seen) :
    Follows (seen ++ [color]) classes where
  mem_iff := by
    intro other
    rw [follows.mem_iff, List.mem_append, List.mem_singleton]
    constructor
    · exact .inl
    · rintro (old | rfl)
      · exact old
      · exact known
  ordered := follows.ordered_append [color]
  numbered := follows.numbered

/-- A new color has the class behind all others. -/
theorem Follows.insert (follows : Follows seen classes) (new : color ∉ seen) :
    Follows (seen ++ [color]) (classes.insert color (numberedClass classes.items.length)) := by
  have absent : color ∉ classes.keys := mt (follows.mem_iff color).mp new
  have keys : (classes.insert color (numberedClass classes.items.length)).keys =
      classes.keys ++ [color] := by
    rw [Table.keys_insert, if_neg absent]
  constructor
  · intro other
    rw [keys, List.mem_append, List.mem_append, follows.mem_iff]
  · rw [keys, List.pairwise_append]
    refine ⟨follows.ordered_append [color], List.pairwise_singleton _ _, ?_⟩
    intro first old second same
    rw [List.mem_singleton.mp same, List.idxOf_append_of_notMem new,
      List.idxOf_append_of_mem ((follows.mem_iff first).mp old)]
    have := List.idxOf_lt_length_iff.mpr ((follows.mem_iff first).mp old)
    omega
  · have values : (classes.insert color (numberedClass classes.items.length)).values =
        classes.values ++ [numberedClass classes.items.length] := by
      unfold Table.values
      rw [Table.items_insert_of_not_mem absent, List.map_append]
      rfl
    have count : classes.keys.length = classes.items.length := List.length_map _
    rw [values, keys, List.length_append, List.length_singleton, List.range_succ, List.map_append,
      follows.numbered, count]
    rfl

theorem Follows.add (follows : Follows seen classes) (color : String) :
    Follows (seen ++ [color]) (classes.add color) := by
  unfold Html.Classes.add Table.contains
  by_cases known : color ∈ seen
  · rw [if_pos ((Table.get?_isSome_iff classes color).mpr ((follows.mem_iff color).mpr known))]
    exact follows.again known
  · rw [if_neg]
    · exact follows.insert known
    · intro found
      exact known ((follows.mem_iff color).mp ((Table.get?_isSome_iff classes color).mp found))

theorem Follows.foldl (follows : Follows seen classes) (entries : List Entry) :
    Follows (seen ++ entries.map Entry.displayColor)
      (entries.foldl (fun classes entry => classes.add entry.displayColor) classes) := by
  induction entries generalizing seen classes with
  | nil =>
      rw [List.map_nil, List.append_nil]
      exact follows
  | cons entry entries ih =>
      have rest := ih (follows.add entry.displayColor)
      rw [List.append_assoc, List.singleton_append] at rest
      exact rest

theorem follows_classesOf (entries : List Entry) :
    Follows (entries.map Entry.displayColor) (Html.classesOf entries) :=
  follows_empty.foldl entries

theorem Follows.nodup_values (follows : Follows seen classes) : classes.values.Nodup := by
  rw [follows.numbered]
  exact List.Nodup.map (fun _first _second => numberedClass_injective) List.nodup_range

/-- No two colors have the same class. -/
theorem Follows.injective (follows : Follows seen classes) {other styleClass : String}
    (found : classes.get? color = some styleClass)
    (foundToo : classes.get? other = some styleClass) : color = other := by
  rw [Table.get?_eq_some_iff] at found foundToo
  have same := List.inj_on_of_nodup_map follows.nodup_values found foundToo rfl
  exact congrArg Prod.fst same

end

/-- The color of an entry is never missed. -/
theorem exists_classOf (entries : List Entry) :
    ∃ classOf : Entry → String, ∀ entry ∈ entries,
      (Html.classesOf entries).get? entry.displayColor = some (classOf entry) := by
  refine ⟨fun entry => ((Html.classesOf entries).get? entry.displayColor).getD "", ?_⟩
  intro entry member
  have known : entry.displayColor ∈ (Html.classesOf entries).keys :=
    ((follows_classesOf entries).mem_iff _).mpr (List.mem_map_of_mem member)
  have found := (Table.get?_isSome_iff _ _).mpr known
  obtain ⟨styleClass, here⟩ := Option.isSome_iff_exists.mp found
  dsimp only
  rw [here]
  rfl

/-! ### What a page shows of them -/

/-- The text in the style element of a page: what stands in front of the tag that ends it. -/
def styleText? (markup : String) : Option String :=
  ((Markup.scan markup).find? fun piece => piece.tag == "/style".toList).map fun piece =>
    String.ofList piece.text

theorem find?_headPieces (title rules : String) (rest : List Markup.Piece) :
    ((headPieces title rules ++ rest).find? fun piece => piece.tag == "/style".toList) =
      some ⟨'\n' :: (Html.styleSheet.toList ++ (rules.toList ++ ['\n'])), "/style".toList⟩ := by
  rfl

theorem ofList_between_feeds (sheet rules : String) :
    String.ofList ('\n' :: (sheet.toList ++ (rules.toList ++ ['\n']))) =
      "\n" ++ sheet ++ rules ++ "\n" := by
  apply String.toList_injective
  simp

theorem styleText?_content {correlation : Correlation} (entries : correlation.isEmpty = false) :
    styleText? (html.content correlation) =
      some ("\n" ++ Html.styleSheet ++
        Html.styleRules (Html.classesOf correlation.entries) ++ "\n") := by
  unfold styleText?
  rw [scan_content entries, List.append_assoc, find?_headPieces, Option.map_some,
    ofList_between_feeds]

/-- A row of the page for the source line of each entry, and below it one for each instruction, in
the class of the color of the entry. -/
theorem map_pageRows {correlation : Correlation} {classOf : Entry → String}
    (found : ∀ entry ∈ correlation.entries,
      (Html.classesOf correlation.entries).get? entry.displayColor = some (classOf entry)) :
    ((pageRows correlation).map fun row => (row.styleClass, row.text)) =
      correlation.entries.flatMap fun entry =>
        (Html.codeClass, ";== " ++ entry.sourceText) ::
          entry.assemblyLines.map fun line => (classOf entry, line) := by
  unfold pageRows
  rw [List.map_flatMap]
  apply List.flatMap_congr
  intro entry member
  rw [Html.entryRows, List.map_cons, List.map_map, found entry member]
  rfl

/-- The classes of a page are the numbers from zero up, one for each color of its entries in the
order in which they are first seen. There is a page unless the line of an entry has too many digits
to be written, which no line of a listing has. Its style rules are one for each of the classes, in
that order, with the color escaped; the row of each instruction has the class whose rule has the
color of its entry; so the rows of two entries have the same class just if the entries have the same
color. -/
theorem page_styles_by_color {correlation : Correlation} (entries : correlation.isEmpty = false) :
    let classes := Html.classesOf correlation.entries
    let colors := correlation.entries.map Entry.displayColor
    (classes.keys.Nodup ∧ (∀ color, color ∈ classes.keys ↔ color ∈ colors) ∧
      (classes.keys.Pairwise fun first second => colors.idxOf first < colors.idxOf second) ∧
      classes.values =
        (List.range classes.keys.length).map (fun number => "bgc-" ++ toString number) ∧
      classes.values.Nodup) ∧
    ((∃ page, html.spelled correlation = .ok page) ↔
      ∀ entry ∈ correlation.entries, Number.IsShort entry.sourceLine) ∧
    (∀ failure, html.spelled correlation = .error failure → failure = .numberTooLong) ∧
    (∀ dialect presentation listing target source name,
      correlate dialect presentation listing target source name = .ok correlation →
        ∃ page, html.spelled correlation = .ok page) ∧
    ∀ page, html.spelled correlation = .ok page →
      styleText? page =
        some ("\n" ++ Html.styleSheet ++
          "\n".intercalate (classes.items.map fun item =>
            "." ++ item.2 ++ " \x7b background: " ++ Html.escape item.1 ++ "; \x7d") ++ "\n") ∧
      ∃ (shown : List ShownRow) (classOf : Entry → String),
        shownRows? page = some shown ∧
        (shown.map fun row => (row.styleClass, row.text)) =
          (correlation.entries.flatMap fun entry =>
            (Html.codeClass, ";== " ++ entry.sourceText) ::
              entry.assemblyLines.map fun line => (classOf entry, line)) ∧
        (∀ entry ∈ correlation.entries, (entry.displayColor, classOf entry) ∈ classes.items) ∧
        ∀ entry ∈ correlation.entries, ∀ other ∈ correlation.entries,
          classOf entry = classOf other ↔ entry.displayColor = other.displayColor := by
  intro classes colors
  have follows : Follows colors classes := follows_classesOf correlation.entries
  obtain ⟨classOf, found⟩ := exists_classOf correlation.entries
  refine ⟨⟨classes.distinct, follows.mem_iff, follows.ordered, follows.numbered,
    follows.nodup_values⟩, exists_page_iff correlation,
    fun _failure => eq_numberTooLong_of_spelled,
    fun _ _ _ _ _ _ => exists_page_of_correlate, ?_⟩
  intro page told
  obtain ⟨_short, rfl⟩ := eq_content_of_spelled told
  refine ⟨styleText?_content entries, shownFrom 1 (pageRows correlation), classOf,
    shownRows?_content entries, ?_, ?_, ?_⟩
  · rw [← map_pageRows found]
    exact map_shownFrom _ _ (fun _number _row => rfl) 1 _
  · intro entry member
    exact (Table.get?_eq_some_iff _ _ _).mp (found entry member)
  · intro entry member other memberToo
    constructor
    · intro same
      apply follows.injective (found entry member)
      rw [same]
      exact found other memberToo
    · intro same
      have one := found entry member
      rw [same, found other memberToo] at one
      exact (Option.some.inj one).symm

/-- Two entries of one color around one whose color would end the style element. -/
def tinted : Correlation :=
  { sourceName := "main.c"
    entries :=
      [{ sourceLine := 1, sourceText := "a", assemblyText := "\tmov", displayColor := "#aaa" },
       { sourceLine := 2, sourceText := "b", assemblyText := "\tnop", displayColor := "</style>" },
       { sourceLine := 4, sourceText := "c", assemblyText := "\tret", displayColor := "#aaa" }] }

/-- The first and the last entry share the first class, and the other color is escaped. -/
theorem page_styles_by_color_tinted :
    tinted.isEmpty = false ∧
      ∃ page, html.spelled tinted = .ok page ∧
        styleText? page =
          some ("\n" ++ Html.styleSheet ++ (".bgc-0 \x7b background: #aaa; \x7d\n" ++
            ".bgc-1 \x7b background: &lt;/style&gt;; \x7d") ++ "\n") ∧
        ∃ shown : List ShownRow, shownRows? page = some shown ∧
          (shown.map fun row => (row.styleClass, row.text)) =
            [("asme-codeline", ";== a"), ("bgc-0", "\tmov"), ("asme-codeline", ";== b"),
              ("bgc-1", "\tnop"), ("asme-codeline", ";== c"), ("bgc-0", "\tret")] := by
  have items : (Html.classesOf tinted.entries).items =
      [("#aaa", "bgc-0"), ("</style>", "bgc-1")] := by decide
  have short : ∀ entry ∈ tinted.entries, Number.IsShort entry.sourceLine := by
    unfold Number.IsShort
    decide
  obtain ⟨_numbered, given, _failing, _listed, styles⟩ := @page_styles_by_color tinted rfl
  obtain ⟨page, told⟩ := given.mpr short
  obtain ⟨styled, shown, classOf, read, rows, named, _shared⟩ := styles page told
  refine ⟨rfl, page, told, ?_, shown, read, ?_⟩
  · rw [styled, items]
    rfl
  · have classed : ∀ entry ∈ tinted.entries, classOf entry =
        ((Html.classesOf tinted.entries).get? entry.displayColor).getD "" := by
      intro entry member
      rw [(Table.get?_eq_some_iff _ _ _).mpr (named entry member)]
      rfl
    rw [rows]
    simp only [tinted, List.flatMap_cons, List.flatMap_nil] at classed ⊢
    rw [List.forall_mem_cons, List.forall_mem_cons, List.forall_mem_cons] at classed
    obtain ⟨first, second, third, _none⟩ := classed
    rw [first, second, third]
    decide

end ListingAtlas.View
