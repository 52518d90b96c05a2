import ListingAtlas.Proofs.Json.Characters
import ListingAtlas.Proofs.View.Page

/-!
The characters of the views. What a view adds to the texts of a correlation is plain, so a character
that stands in a view and is not plain stands in one of these texts.
-/

namespace ListingAtlas

/-- Every text of a correlation is made of characters of a kind. -/
structure Correlation.MadeOf (kind : Char → Prop) (correlation : Correlation) : Prop where
  sourceName : ListingAtlas.MadeOf kind correlation.sourceName
  sourceText : ∀ entry ∈ correlation.entries, ListingAtlas.MadeOf kind entry.sourceText
  assemblyText : ∀ entry ∈ correlation.entries, ListingAtlas.MadeOf kind entry.assemblyText
  displayColor : ∀ entry ∈ correlation.entries, ListingAtlas.MadeOf kind entry.displayColor

theorem Entry.madeOf_assemblyLines {kind : Char → Prop} {entry : Entry}
    (made : MadeOf kind entry.assemblyText) : ∀ line ∈ entry.assemblyLines, MadeOf kind line := by
  intro line member
  unfold Entry.assemblyLines at member
  split at member
  · cases member
  · obtain ⟨characters, broken, rfl⟩ := List.mem_map.mp member
    exact madeOf_ofList fun character among =>
      made character (Text.subset_of_breakLines false _ characters broken among)

namespace View

variable {kind : Char → Prop}

/-! ### The annotated listing -/

theorem madeOf_noListingMessage (keeps : KeepsPlain kind) : MadeOf kind noListingMessage :=
  madeOf_plain keeps rfl

theorem annotated_madeOf (keeps : KeepsPlain kind) {correlation : Correlation}
    (made : correlation.MadeOf kind) : MadeOf kind (annotated.content correlation) := by
  have feed : MadeOf kind "\n" := madeOf_plain keeps rfl
  have mark : MadeOf kind Annotated.headerMark := madeOf_plain keeps rfl
  change MadeOf kind (Annotated.render correlation)
  unfold Annotated.render
  split
  · exact ((madeOf_plain keeps rfl).append (madeOf_noListingMessage keeps)).append feed
  · refine (feed.intercalate fun line member => ?_).append feed
    obtain ⟨entry, among, inEntry⟩ := List.mem_flatMap.mp member
    rcases List.mem_cons.mp inEntry with rfl | inBlock
    · exact mark.append (made.sourceText entry among)
    · exact Entry.madeOf_assemblyLines (made.assemblyText entry among) line inBlock

/-! ### The page -/

theorem madeOf_escape (keeps : KeepsPlain kind) {text : String} (made : MadeOf kind text) :
    MadeOf kind (Html.escape text) := by
  have references : ∀ reference ∈ ["&amp;", "&lt;", "&gt;", "&quot;", "&#x27;"],
      Text.Plain reference.toList := by
    decide
  refine madeOf_ofList fun shown member => ?_
  obtain ⟨character, among, escaped⟩ := List.mem_flatMap.mp member
  rcases Markup.escapedChar_cases character with ⟨reference, known, written⟩ | ⟨kept, -⟩
  · rw [written] at escaped
    exact keeps shown (references reference known shown escaped)
  · rw [kept, List.mem_singleton] at escaped
    rw [escaped]
    exact made character among

theorem madeOf_page (keeps : KeepsPlain kind) {title rules body : String}
    (madeTitle : MadeOf kind title) (madeRules : MadeOf kind rules) (madeBody : MadeOf kind body) :
    MadeOf kind (Html.page title rules body) := by
  have sheet : MadeOf kind Html.styleSheet :=
    (((((madeOf_plain keeps rfl).append (madeOf_plain keeps rfl)).append
      (madeOf_plain keeps rfl)).append (madeOf_plain keeps rfl)).append
      (madeOf_plain keeps rfl)).append (madeOf_plain keeps rfl)
  exact ((((((((madeOf_plain keeps rfl).append (madeOf_plain keeps rfl)).append madeTitle).append
    (madeOf_plain keeps rfl)).append sheet).append madeRules).append
    (madeOf_plain keeps rfl)).append madeBody).append (madeOf_plain keeps rfl)

theorem madeOf_styleClass (keeps : KeepsPlain kind) (number : Nat) :
    MadeOf kind ("bgc-" ++ toString number) := by
  have letters : MadeOf kind "bgc-" := madeOf_plain keeps rfl
  exact letters.append (madeOf_number keeps number)

theorem madeOf_rowMarkup (keeps : KeepsPlain kind) {row : Html.Row} (number : Nat)
    (madeClass : MadeOf kind row.styleClass) (madeText : MadeOf kind row.text) :
    MadeOf kind (Html.rowMarkup number row) := by
  unfold Html.rowMarkup
  exact ((((((((madeOf_plain keeps rfl).append madeClass).append (madeOf_plain keeps rfl)).append
    (madeOf_integer keeps row.sourceLine)).append (madeOf_plain keeps rfl)).append
    (madeOf_number keeps number)).append (madeOf_plain keeps rfl)).append
    (madeOf_escape keeps madeText)).append (madeOf_plain keeps rfl)

theorem madeOf_rowsMarkup (keeps : KeepsPlain kind) {rows : List Html.Row}
    (made : ∀ row ∈ rows, MadeOf kind row.styleClass ∧ MadeOf kind row.text) (number : Nat) :
    ∀ markup ∈ Html.rowsMarkup number rows, MadeOf kind markup := by
  induction rows generalizing number with
  | nil => exact nofun
  | cons row rows ih =>
      rw [List.forall_mem_cons] at made
      rw [Html.rowsMarkup, List.forall_mem_cons]
      exact ⟨madeOf_rowMarkup keeps number made.1.1 made.1.2, ih made.2 (number + 1)⟩

theorem html_madeOf (keeps : KeepsPlain kind) {correlation : Correlation}
    (made : correlation.MadeOf kind) : MadeOf kind (html.content correlation) := by
  have feed : MadeOf kind "\n" := madeOf_plain keeps rfl
  have title := madeOf_escape keeps made.sourceName
  change MadeOf kind (Html.render correlation)
  unfold Html.render
  simp only
  split
  · exact madeOf_page keeps title (madeOf_plain keeps rfl)
      (((madeOf_plain keeps rfl).append
        (madeOf_escape keeps (madeOf_noListingMessage keeps))).append (madeOf_plain keeps rfl))
  · have numbered := numbered_classesOf correlation.entries
    have framed : ∀ text ∈ [".", " \x7b background: ", "; \x7d", "\n"], MadeOf kind text := by
      simp only [List.forall_mem_cons]
      exact ⟨madeOf_plain keeps rfl, madeOf_plain keeps rfl, madeOf_plain keeps rfl, feed, nofun⟩
    have rules := numbered.madeOf_styleRules framed (madeOf_styleClass keeps) fun color known => by
      obtain ⟨entry, among, rfl⟩ := List.mem_map.mp known
      exact madeOf_escape keeps (made.displayColor entry among)
    refine madeOf_page keeps title rules (((madeOf_plain keeps rfl).append
      (feed.intercalate (madeOf_rowsMarkup keeps (fun row member => ?_) 1))).append
        (madeOf_plain keeps rfl))
    obtain ⟨entry, among, inEntry⟩ := List.mem_flatMap.mp member
    rcases List.mem_cons.mp inEntry with rfl | ofLine
    · exact ⟨madeOf_plain keeps rfl, (madeOf_plain keeps rfl).append (made.sourceText entry among)⟩
    · obtain ⟨line, inBlock, rfl⟩ := List.mem_map.mp ofLine
      exact ⟨numbered.madeOf_get? (madeOf_styleClass keeps) entry.displayColor,
        Entry.madeOf_assemblyLines (made.assemblyText entry among) line inBlock⟩

/-! ### The documents -/

theorem entryRecord_madeOf (keeps : KeepsPlain kind) {correlation : Correlation}
    (made : correlation.MadeOf kind) {entry : Entry} (among : entry ∈ correlation.entries) :
    (Document.entryRecord entry).MadeOf kind :=
  ⟨madeOf_plain keeps rfl, trivial, madeOf_plain keeps rfl, made.sourceText entry among,
    madeOf_plain keeps rfl, made.assemblyText entry among, madeOf_plain keeps rfl,
    made.displayColor entry among, trivial⟩

theorem asFile_madeOf (keeps : KeepsPlain kind) {document : Json String}
    (made : document.MadeOf kind) : MadeOf kind (Document.asFile document) := by
  have feed : MadeOf kind "\n" := madeOf_plain keeps rfl
  exact (Json.render_madeOf keeps made).append feed

theorem json_madeOf (keeps : KeepsPlain kind) {correlation : Correlation}
    (made : correlation.MadeOf kind) : MadeOf kind (json.content correlation) :=
  asFile_madeOf keeps ⟨madeOf_plain keeps rfl, made.sourceName, madeOf_plain keeps rfl,
    Json.itemsMadeOf_map fun _entry among => entryRecord_madeOf keeps made among, trivial⟩

theorem swatch_madeOf (keeps : KeepsPlain kind) : Document.swatch.MadeOf kind :=
  ⟨madeOf_plain keeps rfl, madeOf_plain keeps rfl, madeOf_plain keeps rfl, madeOf_plain keeps rfl,
    madeOf_plain keeps rfl, madeOf_plain keeps rfl, madeOf_plain keeps rfl, madeOf_plain keeps rfl,
    madeOf_plain keeps rfl, madeOf_plain keeps rfl, trivial⟩

theorem position_madeOf (keeps : KeepsPlain kind) (line character : Int) :
    (Document.position line character).MadeOf kind :=
  ⟨madeOf_plain keeps rfl, trivial, madeOf_plain keeps rfl, trivial, trivial⟩

theorem decoration_madeOf (keeps : KeepsPlain kind) {correlation : Correlation}
    (made : correlation.MadeOf kind) {entry : Entry} (among : entry ∈ correlation.entries) :
    (Document.decoration entry).MadeOf kind :=
  ⟨madeOf_plain keeps rfl, trivial,
    madeOf_plain keeps rfl,
      ⟨madeOf_plain keeps rfl, position_madeOf keeps _ _, madeOf_plain keeps rfl,
        position_madeOf keeps _ _, trivial⟩,
    madeOf_plain keeps rfl,
      ⟨madeOf_plain keeps rfl, madeOf_plain keeps rfl, madeOf_plain keeps rfl,
        made.assemblyText entry among, trivial⟩,
    madeOf_plain keeps rfl,
      ⟨madeOf_plain keeps rfl,
        ⟨madeOf_plain keeps rfl, made.displayColor entry among, trivial⟩, trivial⟩, trivial⟩

theorem decorations_madeOf (keeps : KeepsPlain kind) {correlation : Correlation}
    (made : correlation.MadeOf kind) : MadeOf kind (decorations.content correlation) :=
  asFile_madeOf keeps ⟨madeOf_plain keeps rfl, made.sourceName, madeOf_plain keeps rfl,
    swatch_madeOf keeps, madeOf_plain keeps rfl,
    Json.itemsMadeOf_map fun _entry among => decoration_madeOf keeps made among, trivial⟩

/-- Every view of a correlation is plain, the texts of the correlation aside. -/
theorem content_madeOf (keeps : KeepsPlain kind) {correlation : Correlation}
    (made : correlation.MadeOf kind) : ∀ view ∈ all, MadeOf kind (view.content correlation) := by
  simp only [all, List.forall_mem_cons]
  exact ⟨annotated_madeOf keeps made, html_madeOf keeps made, json_madeOf keeps made,
    decorations_madeOf keeps made, List.forall_mem_nil _⟩

end View

end ListingAtlas
