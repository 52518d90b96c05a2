import ListingAtlas.Proofs.Correlation.Digits
import ListingAtlas.Proofs.Service.Answering
import ListingAtlas.Proofs.View.Separators

/-!
The document that the service answers with and the files that it renders tell one correlation. Both
are made of the same entries; the file is decoded again, and the header lines of the annotated file
are told from its instructions, whichever separator is set.
-/

namespace ListingAtlas

/-! ### Header lines -/

namespace View.Annotated

/-- The source texts behind the marks of all header lines, in their order. -/
def headers (content : String) : List String :=
  (fedLines content).filterMap headerText?

theorem filterMap_headerText? (lines : List String) :
    lines.filterMap headerText? = (sectionsOf lines).2.map Prod.fst := by
  induction lines with
  | nil => rfl
  | cons line lines ih =>
      rw [sectionsOf, List.filterMap_cons, ih]
      cases headerText? line with
      | none => rfl
      | some text => rfl

end View.Annotated

theorem headers_of_readable {correlation : Correlation}
    (readable : ∀ entry ∈ correlation.entries, entry.Readable) :
    View.Annotated.headers (View.annotated.content correlation) =
      correlation.entries.map Entry.sourceText := by
  cases empty : correlation.isEmpty with
  | true =>
      have nothing : correlation.entries = [] := List.isEmpty_iff.mp empty
      have notice : View.annotated.content correlation = "; " ++ noListingMessage ++ "\n" := by
        change View.Annotated.render correlation = _
        rw [View.Annotated.render, if_pos empty]
      rw [notice, nothing]
      decide
  | false =>
      have read := readSections_of_readable readable empty
      rw [View.Annotated.readSections] at read
      rw [View.Annotated.headers, View.Annotated.filterMap_headerText?, read, Correlation.sections,
        List.map_map]
      rfl

theorem mem_lineSeparators {environment : Environment} {palette : Palette} {separator : String}
    (loaded : (Presentation.configured environment palette).separator = .ok separator) :
    separator = "\r\n" ∨ separator = "\n" := by
  unfold Presentation.configured loadLineSeparator at loaded
  simp only at loaded
  split at loaded
  · rename_i chosen found
    rw [← Except.ok.inj loaded]
    rw [lineSeparators, List.lookup_cons] at found
    split at found
    · exact Or.inl (Option.some.inj found).symm
    · rw [List.lookup_cons] at found
      split at found
      · exact Or.inr (Option.some.inj found).symm
      · cases found
  · cases loaded

theorem readable_of_correlate {presentation : Presentation} {separator : String}
    {listing target source name : String} {correlation : Correlation}
    (separated : presentation.separator = .ok separator)
    (either : separator = "\r\n" ∨ separator = "\n")
    (correlated : correlate Listing.Msvc.dialect presentation listing target source name =
      .ok correlation) : ∀ entry ∈ correlation.entries, entry.Readable := by
  obtain ⟨_blocks, _collected, each⟩ := exists_block_of_correlate separated correlated
  intro entry among
  obtain ⟨noFeed, block, _found, joined, indented⟩ := each entry among
  have plain : ∀ line ∈ block, '\n' ∉ line.toList := fun line member =>
    (indented.each line member).1
  have lines := indented.assemblyLines joined
  refine ⟨noFeed, ?_⟩
  rw [lines]
  rcases either with rfl | rfl
  · rw [Text.linesAtFeeds_intercalate indented.nonempty plain]
    exact indented.each
  · rw [Text.linesAtFeeds_intercalate_feed indented.nonempty plain]
    exact Text.tab_of_mem_withoutReturns indented.each

namespace Service

open Text (Disguise EditorText)

/-! ### Answers that succeed -/

section

variable {environment : Environment} {body : String}

theorem exists_submission
    (succeeds : (answer environment (correlationRequest body)).status = 200) :
    ∃ submission, Submission.read body = .ok submission := by
  rw [answer_posted] at succeeds
  unfold withSubmission at succeeds
  split at succeeds
  · rename_i submission read
    exact ⟨submission, read⟩
  · cases succeeds
  · unfold refuse at succeeds
    split at succeeds
    · cases succeeds
    · cases succeeds

variable {submission : Submission EditorText}

theorem status_of_uncorrelated {disguised : Disguised} {reply : Reply}
    (refused : correlateSubmission environment disguised = .error reply) : reply.status ≠ 200 := by
  unfold correlateSubmission at refused
  simp only at refused
  split at refused
  · rw [← Except.error.inj refused, status_reasonReply]
    split
    · decide
    · decide
  split at refused
  · rw [← Except.error.inj refused, Reply.status]
    decide
  · obtain ⟨failure, _failed, told⟩ := mapError_eq_error_iff.mp refused
    rw [← told]
    unfold failureReply
    split
    · rw [Reply.reason, Reply.status]
      decide
    · rw [Reply.status]
      decide

/-- A submission that is correlated has the one dialect, and its environment a palette and a
separator. -/
theorem exists_correlate {disguised : Disguised} {correlation : Correlation}
    (correlated : correlateSubmission environment disguised = .ok correlation) :
    ∃ palette separator,
      (Presentation.configured environment palette).separator = .ok separator ∧
      correlate Listing.Msvc.dialect (Presentation.configured environment palette)
        disguised.texts.listing disguised.texts.target disguised.texts.source
        disguised.texts.sourceName = .ok correlation := by
  unfold correlateSubmission at correlated
  simp only at correlated
  split at correlated
  · cases correlated
  rename_i dialect found
  split at correlated
  · cases correlated
  rename_i palette _loaded
  have only : dialect = Listing.Msvc.dialect := by
    unfold Listing.findDialect at found
    split at found
    · rename_i listed
      rw [Listing.dialects, List.lookup_cons] at listed
      split at listed
      · rw [← Except.ok.inj found]
        exact (Option.some.inj listed).symm
      · cases listed
    · cases found
  have made := mapError_eq_ok_iff.mp correlated
  rw [only] at made
  obtain ⟨_blocks, _attributed, rest⟩ := bind_eq_ok_iff.mp made
  obtain ⟨separator, separated, _rest⟩ := bind_eq_ok_iff.mp rest
  exact ⟨palette, separator, separated, made⟩

theorem documentReply_of_told {disguise : Disguise} {correlation : Correlation}
    (told : ∀ text ∈ documentTexts correlation, disguise.isWornIn text = false) :
    documentReply disguise correlation = .document 200 (correlationDocument correlation) := by
  have none : (documentTexts correlation).findSome?
      (fun text => (disguise.takeOff text).loneHalves?) = none := by
    rw [List.findSome?_eq_none_iff]
    intro text among
    rw [Disguise.loneHalves?_takeOff]
    exact told text among
  unfold documentReply
  rw [none]

/-- A view that can be told is rendered as a file if its name fits a header. -/
theorem fileReply_of_fits {disguise : Disguise} {correlation : Correlation} {view : View}
    (told : disguise.isWornIn (view.content correlation) = false)
    (fits : fitsHeader (fileName correlation.sourceName view) = true) :
    fileReply disguise view correlation =
      .file view.mediaType (fileName correlation.sourceName view) (view.content correlation) := by
  unfold fileReply
  simp only [told, fits, Bool.false_eq_true, if_false, if_true]

theorem fits_of_fileReply {disguise : Disguise} {correlation : Correlation} {view : View}
    (succeeds : (fileReply disguise view correlation).status = 200) :
    fitsHeader (fileName correlation.sourceName view) = true := by
  unfold fileReply at succeeds
  simp only at succeeds
  split at succeeds
  · cases succeeds
  split at succeeds
  · rename_i fits
    exact fits
  · cases succeeds

/-- Whether the name of a file fits a header is a matter of its stem. -/
theorem fitsHeader_fileName {sourceName : String} {view : View} (known : view ∈ View.all) :
    fitsHeader (fileName sourceName view) = true ↔
      MadeOf (fun character => character.toNat < 256) (stemOf sourceName) := by
  rw [fitsHeader_iff]
  constructor
  · intro name character member
    apply name character
    rw [fileName, String.toList_append]
    exact List.mem_append_left _ member
  · intro stem
    exact stem.append fun character member => (quotable_suffix known character member).1

/-- Where one view is rendered, every view is. -/
theorem answer_of_rendered {correlation : Correlation}
    (read : Submission.read body = .ok submission)
    (correlated : correlateSubmission environment (Disguised.of submission) = .ok correlation)
    (told : ∀ text ∈ documentTexts correlation,
      (Disguised.of submission).disguise.isWornIn text = false)
    {one view : View} (oneKnown : one ∈ View.all) (known : view ∈ View.all)
    (rendered : (answer environment (renderRequest one body)).status = 200) :
    answer environment (renderRequest view body) =
      .file view.mediaType (fileName correlation.sourceName view) (view.content correlation) := by
  rw [answer_renderRequest read oneKnown, answerRender_of_correlated oneKnown correlated]
    at rendered
  have stem := (fitsHeader_fileName oneKnown).mp (fits_of_fileReply rendered)
  rw [answer_renderRequest read known, answerRender_of_correlated known correlated]
  exact fileReply_of_fits (content_unworn told known) ((fitsHeader_fileName known).mpr stem)

theorem told_of_documentReply {disguise : Disguise} {correlation : Correlation}
    (succeeds : (documentReply disguise correlation).status = 200) :
    ∀ text ∈ documentTexts correlation, disguise.isWornIn text = false := by
  rcases status_documentReply_cases disguise correlation with ⟨_same, told⟩ | ⟨fails, _worn⟩
  · exact told
  · rw [succeeds] at fails
    cases fails

/-! ### One correlation -/

/-- Whether a document says that there are no entries. -/
def empty? (document : Json String) : Option Bool := do
  let fields ← document.record?
  match Json.field? fields "empty" with
  | some (.bool empty) => some empty
  | _ => none

/-- A document, a rendered one and an annotated listing that tell the same correlation, entry by
entry. -/
structure Agreement (document : Json String) (rendered annotated : String)
    (correlation : Correlation) : Prop where
  told : View.Document.correlation? document = some correlation
  decoded : (Json.decode rendered).bind View.Document.correlation? = some correlation
  empty : empty? document = some correlation.entries.isEmpty
  headers : View.Annotated.headers annotated = correlation.entries.map Entry.sourceText

theorem correlation?_correlationDocument (correlation : Correlation) :
    View.Document.correlation? (correlationDocument correlation) = some correlation :=
  View.Document.correlation?_record rfl rfl

/-- What is made of one correlation agrees. -/
theorem agreement_of_correlate {presentation : Presentation} {separator : String}
    {listing target source name : String} {correlation : Correlation}
    (separated : presentation.separator = .ok separator)
    (either : separator = "\r\n" ∨ separator = "\n")
    (correlated : correlate Listing.Msvc.dialect presentation listing target source name =
      .ok correlation) :
    Agreement (correlationDocument correlation) (View.json.content correlation)
      (View.annotated.content correlation) correlation := by
  have lines : ∀ entry ∈ correlation.entries, Number.IsShort entry.sourceLine :=
    fun entry among => (line_of_correlate correlated among).2
  obtain ⟨_text, _whole, _alone, decoded⟩ := View.Document.holds_listing correlation lines
  constructor
  · exact correlation?_correlationDocument correlation
  · rw [decoded]
    exact View.Document.correlation?_listing correlation
  · rfl
  · exact headers_of_readable (readable_of_correlate separated either correlated)

/-- Where a correlation is answered both as a document and as a rendered one, the two and the
annotated listing agree. -/
theorem endpoints_agree
    (answered : (answer environment (correlationRequest body)).status = 200)
    (rendered : (answer environment (renderRequest View.json body)).status = 200) :
    ∃ document jsonName content annotatedName annotated correlation,
      answer environment (correlationRequest body) = .document 200 document ∧
      answer environment (renderRequest View.json body) =
        .file View.json.mediaType jsonName content ∧
      answer environment (renderRequest View.annotated body) =
        .file View.annotated.mediaType annotatedName annotated ∧
      Agreement document content annotated correlation := by
  obtain ⟨submission, read⟩ := exists_submission answered
  cases outcome : correlateSubmission environment (Disguised.of submission) with
  | error reply =>
      rw [answer_of_uncorrelated read outcome] at answered
      exact absurd answered (status_of_uncorrelated outcome)
  | ok correlation =>
      have reply := answer_of_correlated read outcome
      rw [reply] at answered
      have told := told_of_documentReply answered
      rw [documentReply_of_told told] at reply
      have jsonKnown : View.json ∈ View.all := by simp [View.all]
      have annotatedKnown : View.annotated ∈ View.all := by simp [View.all]
      have json := answer_of_rendered read outcome told jsonKnown jsonKnown rendered
      have annotated := answer_of_rendered read outcome told jsonKnown annotatedKnown rendered
      obtain ⟨palette, separator, separated, correlated⟩ := exists_correlate outcome
      have agreement := agreement_of_correlate separated (mem_lineSeparators separated) correlated
      exact ⟨_, _, _, _, _, correlation, reply, json, annotated, agreement⟩

end

/-! ### One line with one instruction -/

def shownTexts : Submission String :=
  { listing := "; File a.c\n_TEXT\tSEGMENT\n; 1 : x\n\tnop"
    target := "a.c"
    source := "int x;"
    sourceName := "a.c"
    dialect := "msvc" }

def shownBody : String :=
  "\x7b\"listing_text\": \"; File a.c\\n_TEXT\\tSEGMENT\\n; 1 : x\\n\\tnop\", " ++
    "\"target_file_path\": \"a.c\", \"source_text\": \"int x;\", " ++
    "\"source_filename\": \"a.c\"\x7d"

theorem texts_of_strings (texts : Submission String) :
    (Disguised.of (texts.map EditorText.ofString)).texts = texts := by
  unfold Disguised.of Submission.map
  simp only [Disguise.putOn_ofString]

/-- One body, answered with its document and with the file of each of two views. -/
theorem endpoints_agree_shown :
    let environment : Environment := { lineSeparator := some "lf" }
    (answer environment (correlationRequest shownBody)).status = 200 ∧
      (answer environment (renderRequest View.json shownBody)).status = 200 ∧
      ∃ document jsonName content annotatedName annotated correlation,
        answer environment (correlationRequest shownBody) = .document 200 document ∧
        answer environment (renderRequest View.json shownBody) =
          .file View.json.mediaType jsonName content ∧
        answer environment (renderRequest View.annotated shownBody) =
          .file View.annotated.mediaType annotatedName annotated ∧
        Agreement document content annotated correlation ∧
        View.Annotated.headers annotated = ["int x;"] := by
  intro environment
  let correlation := correlationOf "a.c" "\n" [⟨1, "int x;", "#decbe4", ["\tnop"]⟩]
  have read : Submission.read shownBody = .ok (shownTexts.map EditorText.ofString) :=
    read_of_toOption (by decide +kernel)
  have blocks : (Listing.blocksOf Listing.Msvc.dialect ⟨"a.c", 1⟩
      shownTexts.listing).toOption.map Table.items = some [(1, ["\tnop"])] := by
    decide +kernel
  have correlated : correlateSubmission environment
      (Disguised.of (shownTexts.map EditorText.ofString)) = .ok correlation := by
    have found : Listing.findDialect shownTexts.dialect = .ok Listing.Msvc.dialect := rfl
    have loaded : loadPalette environment = .ok defaultPalette := rfl
    have made := correlate_drafted (separator_of_setting {} defaultPalette).2 blocks
    unfold correlateSubmission
    rw [texts_of_strings]
    simp only [found, loaded]
    rw [mapError_eq_ok_iff]
    exact made
  have told : ∀ text ∈ documentTexts correlation,
      (Disguised.of (shownTexts.map EditorText.ofString)).disguise.isWornIn text = false := by
    decide +kernel
  have reply := answer_of_correlated read correlated
  rw [documentReply_of_told told] at reply
  have jsonKnown : View.json ∈ View.all := by simp [View.all]
  have fits : fitsHeader (fileName correlation.sourceName View.json) = true := by decide +kernel
  have file : (answer environment (renderRequest View.json shownBody)).status = 200 := by
    rw [answer_renderRequest read jsonKnown, answerRender_of_correlated jsonKnown correlated,
      fileReply_of_fits (content_unworn told jsonKnown) fits]
    rfl
  have answered : (answer environment (correlationRequest shownBody)).status = 200 := by
    rw [reply]
    rfl
  obtain ⟨document, jsonName, content, annotatedName, annotated, other, posted, json, shown,
    agreement⟩ := endpoints_agree answered file
  refine ⟨answered, file, document, jsonName, content, annotatedName, annotated, other, posted, json,
    shown, agreement, ?_⟩
  have same : other = correlation := by
    rw [reply, Reply.document.injEq] at posted
    have known := agreement.told
    rw [← posted.2, correlation?_correlationDocument] at known
    exact (Option.some.inj known).symm
  rw [agreement.headers, same]
  rfl

end Service

end ListingAtlas
