import ListingAtlas.Proofs.CommandLine.Preparing
import ListingAtlas.Proofs.Correlation.Ranges
import ListingAtlas.Proofs.Listing.Refusal
import ListingAtlas.Proofs.Service.FileName
import ListingAtlas.Proofs.Text.Disguise
import ListingAtlas.Proofs.Text.Utf8
import ListingAtlas.Proofs.View.Characters

/-!
What the service answers to a submission. The document of a correlation and the files of its views
are answered alike, unless a text of the submission cannot be told, a number of the listing is too
long, or the name of the source is none for a header.
-/

namespace ListingAtlas.Service

open Text (Disguise EditorText)

/-! ### Requests -/

theorem percentDecoded_of_not_mem {path : List Char} (noPercent : '%' ∉ path) :
    percentDecoded path = path.flatMap String.utf8EncodeChar := by
  induction path with
  | nil => rfl
  | cons character rest ih =>
      rw [List.mem_cons, not_or] at noPercent
      have other : percentDecoded (character :: rest) =
          Text.encodeUtf8 (String.singleton character) ++ percentDecoded rest := by
        rw [percentDecoded]
        intro _high _low _rest percent
        exact absurd percent.symm noPercent.1
      rw [other, ih noPercent.2, List.flatMap_cons, Text.encodeUtf8, String.toList_singleton,
        List.flatMap_singleton]

/-- A path of plain characters stands for itself. -/
theorem decodePath_plain {path : String} (plain : Text.Plain path.toList)
    (noPercent : '%' ∉ path.toList) : decodePath path = path := by
  have none : Text.decodeUtf8 [] = "" := rfl
  have bytes : percentDecoded path.toList = [] ++ Text.encodeUtf8 path :=
    percentDecoded_of_not_mem noPercent
  rw [decodePath, bytes, Text.decodeUtf8_append_plain [] plain, none, String.empty_append]

def correlationRequest (body : String) : Request :=
  { method := "POST", path := "/correlations", body }

def renderRequest (view : View) (body : String) : Request :=
  { method := "POST", path := "/correlations/render/" ++ view.key, body }

section

variable {environment : Environment} {body : String} {submission : Submission EditorText}

theorem answer_posted (environment : Environment) (body : String) :
    answer environment (correlationRequest body) =
      withSubmission body (answerCorrelation environment) := by
  have routed : route? (decodePath "/correlations") = some .correlations := by
    rw [decodePath_plain (by decide) (by decide)]
    decide
  unfold answer correlationRequest
  simp only [routed]
  rfl

theorem answer_correlationRequest (read : Submission.read body = .ok submission) :
    answer environment (correlationRequest body) = answerCorrelation environment submission := by
  rw [answer_posted, withSubmission, read]

theorem find?_key {view : View} (known : view ∈ View.all) : View.find? view.key = some view := by
  simp only [View.all, List.mem_cons, List.not_mem_nil, or_false] at known
  rcases known with rfl | rfl | rfl | rfl <;> rfl

theorem answer_renderRequest (read : Submission.read body = .ok submission) {view : View}
    (known : view ∈ View.all) :
    answer environment (renderRequest view body) =
      answerRender environment view.key submission := by
  have paths : ∀ key ∈ ["annotated", "html", "json", "decorations"],
      Text.Plain ("/correlations/render/" ++ key).toList ∧
        '%' ∉ ("/correlations/render/" ++ key).toList ∧
        route? ("/correlations/render/" ++ key) = some (.render key) := by
    decide +kernel
  have keyed : view.key ∈ ["annotated", "html", "json", "decorations"] := by
    simp only [View.all, List.mem_cons, List.not_mem_nil, or_false] at known
    rcases known with rfl | rfl | rfl | rfl <;> decide
  obtain ⟨plain, noPercent, routed⟩ := paths view.key keyed
  rw [← decodePath_plain plain noPercent] at routed
  unfold answer renderRequest
  simp only [routed]
  change withSubmission body (answerRender environment view.key) = _
  rw [withSubmission, read]

theorem answerRender_of_correlated {view : View} (known : view ∈ View.all)
    {correlation : Correlation}
    (correlated : correlateSubmission environment (Disguised.of submission) = .ok correlation) :
    answerRender environment view.key submission =
      fileReply (Disguised.of submission).disguise view correlation := by
  unfold answerRender
  simp only [find?_key known, correlated]

end

/-! ### What becomes of a submission -/

/-- The listing of a submission as its reader sees it. -/
def Disguised.reads (submission : Disguised) : Listing.Source :=
  { dialect := Listing.Msvc.dialect
    target :=
      { path := submission.texts.target
        lineCount := (sourceLines submission.texts.source).length }
    lines := Text.linesAtFeeds submission.texts.listing }

inductive Outcome (submission : Disguised) : Except Reply Correlation → Prop
  | unknown (dialect : submission.texts.dialect ∉ Listing.dialectKeys) :
      Outcome submission (.error (reasonReply submission.disguise 400
        (Failure.unknownDialect submission.texts.dialect "msvc").message))
  | malformed (dialect : submission.texts.dialect ∈ Listing.dialectKeys) {position : Nat}
      {line : String}
      (first : submission.reads.FirstRefusal position (.malformedDirective position line)) :
      Outcome submission (.error (Reply.reason 422
        (Failure.directiveMessage position (submission.disguise.takeOff line).quoted)))
  | long (dialect : submission.texts.dialect ∈ Listing.dialectKeys) {position digits : Nat}
      (first : submission.reads.FirstRefusal position (.numeralTooLong digits)) :
      Outcome submission (.error (.breakdown (.numeralTooLong digits)))
  | correlated (dialect : submission.texts.dialect ∈ Listing.dialectKeys)
      (accepted : ∀ position failure, ¬ submission.reads.Refuses position failure)
      {correlation : Correlation} (name : correlation.sourceName = submission.texts.sourceName) :
      Outcome submission (.ok correlation)

/-- A valid environment leaves a submission one of these outcomes. -/
theorem outcome_correlateSubmission {environment : Environment} {palette : Palette}
    {separator : String} (loaded : loadPalette environment = .ok palette)
    (separated : loadLineSeparator environment = .ok separator) (submission : Disguised) :
    Outcome submission (correlateSubmission environment submission) := by
  unfold correlateSubmission
  simp only
  by_cases dialect : submission.texts.dialect = "msvc"
  · have found : Listing.findDialect submission.texts.dialect = .ok Listing.Msvc.dialect := by
      rw [dialect]
      rfl
    have known : submission.texts.dialect ∈ Listing.dialectKeys := by
      rw [dialect]
      exact List.mem_singleton_self _
    rw [found, loaded]
    simp only
    cases attributed : Listing.blocksOf Listing.Msvc.dialect
        { path := submission.texts.target
          lineCount := (sourceLines submission.texts.source).length }
        submission.texts.listing with
    | error failure =>
        rw [correlate_of_error _ attributed]
        obtain ⟨position, first⟩ := (Listing.blocksOfLines_eq_error_iff submission.reads failure).mp
          attributed
        obtain ⟨_inTarget, _kind, line, token, _atLine, _found, refused⟩ := first.1
        rcases refused with ⟨_malformed, rfl⟩ | ⟨_numeral, _long, rfl⟩
        · exact .malformed known first
        · exact .long known first
    | ok blocks =>
        obtain ⟨entries, assembled, _presents⟩ := exists_assemble
          (isColor_of_loadPalette loaded).1 separator (sourceLines submission.texts.source)
          fun sourceLine member => (Listing.keys_within attributed member).1
        have configured : (Presentation.configured environment palette).separator =
            .ok separator := by
          rw [← separated, Presentation.configured]
        rw [correlate_of_assemble _ configured attributed assembled]
        have accepted := (Listing.exists_blocksOfLines_iff submission.reads).mp ⟨blocks, attributed⟩
        exact .correlated known accepted rfl
  · have other : (submission.texts.dialect == "msvc") = false := by simpa using dialect
    have missing : Listing.findDialect submission.texts.dialect =
        .error (.unknownDialect submission.texts.dialect "msvc") := by
      unfold Listing.findDialect Listing.dialects
      rw [List.lookup_cons, other]
      rfl
    rw [missing]
    exact .unknown (by simpa [Listing.dialectKeys, Listing.dialects] using dialect)

/-! ### Documents -/

section

variable {disguise : Disguise} {correlation : Correlation}

theorem status_documentReply_cases (disguise : Disguise) (correlation : Correlation) :
    (documentReply disguise correlation).status = 200 ∧
        (∀ text ∈ documentTexts correlation, disguise.isWornIn text = false) ∨
      (documentReply disguise correlation).status = 500 ∧
        ∃ text ∈ documentTexts correlation, disguise.isWornIn text = true := by
  unfold documentReply
  split
  · rename_i halves found
    obtain ⟨text, among, told⟩ := List.exists_of_findSome?_eq_some found
    refine Or.inr ⟨rfl, text, among, ?_⟩
    rw [← Bool.not_eq_false, ← Disguise.loneHalves?_takeOff, told]
    simp
  · rename_i none
    refine Or.inl ⟨rfl, fun text among => ?_⟩
    rw [← Disguise.loneHalves?_takeOff]
    exact List.findSome?_eq_none_iff.mp none text among

theorem status_reasonReply (disguise : Disguise) (status : Nat) (text : String) :
    (reasonReply disguise status text).status =
      if disguise.isWornIn text = true then 500 else status := by
  unfold reasonReply
  split <;> rfl

/-- Whether the reason for an unknown dialect can be told is a matter of its key. -/
theorem isWornIn_unknownDialect (texts : List EditorText) (key : String) :
    (Disguise.choose texts).isWornIn (Failure.unknownDialect key "msvc").message =
      (Disguise.choose texts).isWornIn key := by
  have keeps := Disguise.keepsPlain_choose texts
  have spelled : (Failure.unknownDialect key "msvc").message =
      "Unknown listing dialect '" ++ key ++ "'. Available: " ++ "msvc" := rfl
  have told : (Disguise.choose texts).isWornIn (Failure.unknownDialect key "msvc").message =
      false ↔ (Disguise.choose texts).isWornIn key = false := by
    rw [Disguise.isWornIn_eq_false_iff, Disguise.isWornIn_eq_false_iff, spelled]
    constructor
    · intro made character member
      apply made character
      simp only [String.toList_append, List.mem_append]
      exact Or.inl (Or.inl (Or.inr member))
    · intro made
      exact (((madeOf_plain keeps rfl).append made).append (madeOf_plain keeps rfl)).append
        (madeOf_plain keeps rfl)
  cases worn : (Disguise.choose texts).isWornIn key with
  | false => exact told.mpr worn
  | true =>
      rw [← Bool.not_eq_false, told, worn]
      decide

end

/-! ### Files -/

/-- A character can stand in a quoted name of a header as it is. -/
def Quotable (character : Char) : Prop :=
  character.toNat < 256 ∧ character ∉ ['"', '\\', '\r', '\n']

instance (character : Char) : Decidable (Quotable character) :=
  inferInstanceAs (Decidable (character.toNat < 256 ∧ character ∉ ['"', '\\', '\r', '\n']))

/-- A reply offers a view as a file, named as the source calls for. -/
def OffersFile (reply : Reply) (sourceName : EditorText) (view : View) : Prop :=
  reply.status = 200 ∧ ∃ disposition, reply.disposition? = some disposition ∧
    '\r' ∉ disposition.toList ∧ '\n' ∉ disposition.toList ∧
    ∃ name stem, sourceName = EditorText.ofString name ∧ IsStem name stem ∧
      fileNameOf? disposition = some (stem ++ view.suffix)

theorem quotable_suffix {view : View} (known : view ∈ View.all) :
    MadeOf Quotable view.suffix := by
  simp only [View.all, List.mem_cons, List.not_mem_nil, or_false] at known
  rcases known with rfl | rfl | rfl | rfl <;> decide

theorem quotable_dispositionOf {name : String} (quotable : MadeOf Quotable name) {mark : Char}
    (breaks : mark ∈ ['\r', '\n']) : mark ∉ (Reply.dispositionOf name).toList := by
  have frame : mark ∉ "attachment; filename=\"".toList ∧ mark ∉ "\"".toList ∧
      mark ∈ ['"', '\\', '\r', '\n'] := by
    simp only [List.mem_cons, List.not_mem_nil, or_false] at breaks
    rcases breaks with rfl | rfl <;> decide
  obtain ⟨front, back, special⟩ := frame
  unfold Reply.dispositionOf
  rw [String.toList_append, String.toList_append, List.mem_append, List.mem_append, not_or, not_or]
  exact ⟨⟨front, fun member => (quotable mark member).2 special⟩, back⟩

theorem mem_dispositionOf {name : String} {character : Char} (member : character ∈ name.toList) :
    character ∈ (Reply.dispositionOf name).toList := by
  unfold Reply.dispositionOf
  rw [String.toList_append, String.toList_append, List.mem_append, List.mem_append]
  exact Or.inl (Or.inr member)

theorem ofString_inj {one other : String} (same : EditorText.ofString one = EditorText.ofString other) :
    one = other := by
  have strings := congrArg EditorText.toString? same
  rw [EditorText.toString?_ofString, EditorText.toString?_ofString] at strings
  exact Option.some.inj strings

theorem fitsHeader_iff (text : String) :
    fitsHeader text = true ↔ MadeOf (fun character => character.toNat < 256) text := by
  rw [fitsHeader, List.all_eq_true]
  simp only [decide_eq_true_eq]
  rfl

/-- The file is offered under its name where the stem can be quoted as it is. -/
theorem offersFile_iff {disguise : Disguise} {correlation : Correlation} {view : View}
    (known : view ∈ View.all) (told : disguise.isWornIn (view.content correlation) = false) :
    OffersFile (fileReply disguise view correlation)
        (EditorText.ofString correlation.sourceName) view ↔
      MadeOf Quotable (stemOf correlation.sourceName) := by
  constructor
  · rintro ⟨succeeds, disposition, offered, noReturn, noFeed, name, stem, same, named, read⟩
    have nameSame := ofString_inj same
    subst nameSame
    rw [isStem_iff] at named
    subst named
    unfold fileReply at succeeds offered
    simp only [told, Bool.false_eq_true, if_false] at succeeds offered
    split at succeeds
    · rename_i fits
      rw [if_pos fits] at offered
      have shown : Reply.dispositionOf (fileName correlation.sourceName view) = disposition :=
        Option.some.inj offered
      subst shown
      obtain ⟨noQuote, noEscape⟩ := (fileNameOf?_eq_some_iff _).mp read
      intro character member
      have inName : character ∈ (fileName correlation.sourceName view).toList := by
        rw [fileName, String.toList_append]
        exact List.mem_append_left _ member
      refine ⟨(fitsHeader_iff _).mp fits character inName, fun special => ?_⟩
      simp only [List.mem_cons, List.not_mem_nil, or_false] at special
      rcases special with rfl | rfl | rfl | rfl
      · exact noQuote inName
      · exact noEscape inName
      · exact noReturn (mem_dispositionOf inName)
      · exact noFeed (mem_dispositionOf inName)
    · cases succeeds
  · intro quotable
    have name : MadeOf Quotable (fileName correlation.sourceName view) :=
      quotable.append (quotable_suffix known)
    have fits : fitsHeader (fileName correlation.sourceName view) = true :=
      (fitsHeader_iff _).mpr fun character member => (name character member).1
    have reply : fileReply disguise view correlation =
        .file view.mediaType (fileName correlation.sourceName view)
          (view.content correlation) := by
      unfold fileReply
      simp only [told, fits, Bool.false_eq_true, if_false, if_true]
    rw [reply]
    refine ⟨rfl, _, rfl, quotable_dispositionOf name (by decide),
      quotable_dispositionOf name (by decide), correlation.sourceName, _, rfl,
      (isStem_iff _ _).mpr rfl, (fileNameOf?_eq_some_iff _).mpr ⟨?_, ?_⟩⟩
    · exact fun member => (name _ member).2 (by decide)
    · exact fun member => (name _ member).2 (by decide)

/-! ### Proper answers -/

/-- A body is answered with a document, or with the reason why there is none; and where there is a
document, every view is offered as a file. -/
structure AnsweredProperly (environment : Environment) (body : String)
    (submission : Submission EditorText) : Prop where
  document : let reply := answer environment (correlationRequest body)
    reply.status = 200 ∨
      reply.status = 400 ∧ submission.dialect ∉ Listing.dialectKeys.map EditorText.ofString ∨
      reply.status = 422 ∧ ∃ position line,
        (Disguised.of submission).reads.FirstRefusal position (.malformedDirective position line)
  files : (answer environment (correlationRequest body)).status = 200 → ∀ view ∈ View.all,
    OffersFile (answer environment (renderRequest view body)) submission.sourceName view

/-- What keeps a submission from a proper answer: half a surrogate pair where it would have to be
told, a number of too many digits, or a stem that cannot be quoted as it is. -/
inductive Spoilt (environment : Environment) (submission : Disguised) : Prop
  | dialect (unknown : submission.texts.dialect ∉ Listing.dialectKeys)
      (half : submission.disguise.isWornIn submission.texts.dialect = true) :
      Spoilt environment submission
  | numeral (known : submission.texts.dialect ∈ Listing.dialectKeys) {position digits : Nat}
      (first : submission.reads.FirstRefusal position (.numeralTooLong digits)) :
      Spoilt environment submission
  | text {correlation : Correlation}
      (correlated : correlateSubmission environment submission = .ok correlation) {text : String}
      (shown : text ∈ documentTexts correlation)
      (half : submission.disguise.isWornIn text = true) : Spoilt environment submission
  | name {correlation : Correlation}
      (correlated : correlateSubmission environment submission = .ok correlation) {stem : String}
      (named : IsStem submission.texts.sourceName stem)
      (unquotable : ¬ MadeOf Quotable stem) : Spoilt environment submission

section

variable {environment : Environment} {palette : Palette} {separator body : String}
  {submission : Submission EditorText} {correlation : Correlation}

theorem answer_of_uncorrelated (read : Submission.read body = .ok submission) {reply : Reply}
    (refused : correlateSubmission environment (Disguised.of submission) = .error reply) :
    answer environment (correlationRequest body) = reply := by
  rw [answer_correlationRequest read]
  unfold answerCorrelation
  simp only [refused]

theorem answer_of_correlated (read : Submission.read body = .ok submission)
    (correlated : correlateSubmission environment (Disguised.of submission) = .ok correlation) :
    answer environment (correlationRequest body) =
      documentReply (Disguised.of submission).disguise correlation := by
  rw [answer_correlationRequest read]
  unfold answerCorrelation
  simp only [correlated]

/-- Where every text of the document can be told, the views can be told as well. -/
theorem content_unworn (told : ∀ text ∈ documentTexts correlation,
      (Disguised.of submission).disguise.isWornIn text = false) {view : View}
    (known : view ∈ View.all) :
    (Disguised.of submission).disguise.isWornIn (view.content correlation) = false := by
  have keeps := Disguise.keepsPlain_choose submission.toList
  have made (text : String) (shown : text ∈ documentTexts correlation) :=
    (Disguise.isWornIn_eq_false_iff _ _).mp (told text shown)
  have ofEntry {entry : Entry} (among : entry ∈ correlation.entries) {text : String}
      (own : text ∈ [entry.sourceText, entry.assemblyText, entry.displayColor]) :
      text ∈ documentTexts correlation :=
    List.mem_cons_of_mem _ (List.mem_flatMap.mpr ⟨entry, among, own⟩)
  rw [Disguise.isWornIn_eq_false_iff]
  refine View.content_madeOf keeps ?_ view known
  exact
    { sourceName := made _ List.mem_cons_self
      sourceText := fun entry among => made _ (ofEntry among (by simp))
      assemblyText := fun entry among => made _ (ofEntry among (by simp))
      displayColor := fun entry among => made _ (ofEntry among (by simp)) }

/-- The name of a source that can be told is the submitted one. -/
theorem ofString_sourceName (name : correlation.sourceName =
      (Disguised.of submission).texts.sourceName)
    (told : ∀ text ∈ documentTexts correlation,
      (Disguised.of submission).disguise.isWornIn text = false) :
    EditorText.ofString correlation.sourceName = submission.sourceName := by
  have unworn := told _ List.mem_cons_self
  rw [name] at unworn ⊢
  exact Disguise.ofString_putOn (by simp [Submission.toList]) unworn

theorem offersFile_of_correlated (read : Submission.read body = .ok submission)
    (correlated : correlateSubmission environment (Disguised.of submission) = .ok correlation)
    (name : correlation.sourceName = (Disguised.of submission).texts.sourceName)
    (told : ∀ text ∈ documentTexts correlation,
      (Disguised.of submission).disguise.isWornIn text = false) {view : View}
    (known : view ∈ View.all) :
    OffersFile (answer environment (renderRequest view body)) submission.sourceName view ↔
      MadeOf Quotable (stemOf correlation.sourceName) := by
  rw [answer_renderRequest read known, answerRender_of_correlated known correlated,
    ← ofString_sourceName name told]
  exact offersFile_iff known (content_unworn told known)

theorem not_answeredProperly_of_breakdown
    (broken : (answer environment (correlationRequest body)).status = 500) :
    ¬ AnsweredProperly environment body submission := by
  intro proper
  rcases proper.document with succeeds | ⟨refused, _unknown⟩ | ⟨refused, _first⟩
  · exact absurd (broken.symm.trans succeeds) (by decide)
  · exact absurd (broken.symm.trans refused) (by decide)
  · exact absurd (broken.symm.trans refused) (by decide)

theorem dialect_of_unknown (unknown : (Disguised.of submission).texts.dialect ∉
      Listing.dialectKeys) :
    submission.dialect ∉ Listing.dialectKeys.map EditorText.ofString := by
  intro member
  obtain ⟨key, known, same⟩ := List.mem_map.mp member
  have shown : (Disguised.of submission).texts.dialect = key := by
    change (Disguised.of submission).disguise.putOn submission.dialect = key
    rw [← same, Disguise.putOn_ofString]
  exact unknown (shown ▸ known)

/-- Without a correlation, a submission is answered properly unless the reason cannot be told. -/
theorem answeredProperly_iff_of_uncorrelated (read : Submission.read body = .ok submission)
    {reply : Reply}
    (refused : correlateSubmission environment (Disguised.of submission) = .error reply)
    (outcome : Outcome (Disguised.of submission) (.error reply)) :
    AnsweredProperly environment body submission ↔
      ¬ Spoilt environment (Disguised.of submission) := by
  have uncorrelated {correlation : Correlation} : correlateSubmission environment
      (Disguised.of submission) ≠ .ok correlation := by
    rw [refused]
    exact nofun
  have reached := answer_of_uncorrelated read refused
  cases outcome with
  | unknown dialect =>
      have status := status_reasonReply (Disguised.of submission).disguise 400
        (Failure.unknownDialect (Disguised.of submission).texts.dialect "msvc").message
      have worn : (Disguised.of submission).disguise.isWornIn (Failure.unknownDialect
          (Disguised.of submission).texts.dialect "msvc").message =
          (Disguised.of submission).disguise.isWornIn (Disguised.of submission).texts.dialect :=
        isWornIn_unknownDialect submission.toList _
      rw [worn, ← reached] at status
      cases half : (Disguised.of submission).disguise.isWornIn
          (Disguised.of submission).texts.dialect with
      | true =>
          rw [if_pos half] at status
          exact iff_of_false (not_answeredProperly_of_breakdown status)
            (not_not_intro (.dialect dialect half))
      | false =>
          rw [if_neg (by rw [half]; decide)] at status
          refine iff_of_true ⟨Or.inr (Or.inl ⟨status, dialect_of_unknown dialect⟩), ?_⟩ ?_
          · intro succeeds
            exact absurd (status.symm.trans succeeds) (by decide)
          · rintro (⟨_unknown, worn⟩ | ⟨known, _first⟩ | ⟨correlated, _shown, _half⟩ |
              ⟨correlated, _named, _unquotable⟩)
            · exact absurd (half.symm.trans worn) (by decide)
            · exact dialect known
            · exact uncorrelated correlated
            · exact uncorrelated correlated
  | malformed dialect first =>
      refine iff_of_true ⟨Or.inr (Or.inr ⟨by rw [reached]; rfl, _, _, first⟩), ?_⟩ ?_
      · intro succeeds
        rw [reached] at succeeds
        cases succeeds
      · rintro (⟨unknown, _worn⟩ | ⟨_known, other⟩ | ⟨correlated, _shown, _half⟩ |
          ⟨correlated, _named, _unquotable⟩)
        · exact unknown dialect
        · exact absurd (first.unique other) nofun
        · exact uncorrelated correlated
        · exact uncorrelated correlated
  | long dialect first =>
      exact iff_of_false (not_answeredProperly_of_breakdown (by rw [reached]; rfl))
        (not_not_intro (.numeral dialect first))

/-- With a correlation, a submission is answered properly where its texts can be told and the stem
can be quoted. -/
theorem answeredProperly_iff_of_correlated (read : Submission.read body = .ok submission)
    (correlated : correlateSubmission environment (Disguised.of submission) = .ok correlation)
    (outcome : Outcome (Disguised.of submission) (.ok correlation)) :
    AnsweredProperly environment body submission ↔
      ¬ Spoilt environment (Disguised.of submission) := by
  have reached := answer_of_correlated read correlated
  cases outcome with
  | correlated dialect accepted name =>
      rcases status_documentReply_cases (Disguised.of submission).disguise correlation with
        ⟨status, told⟩ | ⟨status, text, shown, half⟩
      · rw [← reached] at status
        have offered {view : View} (known : view ∈ View.all) :=
          offersFile_of_correlated read correlated name told known
        have stem : IsStem (Disguised.of submission).texts.sourceName
            (stemOf correlation.sourceName) := by
          rw [isStem_iff, name]
        constructor
        · rintro proper (⟨unknown, _worn⟩ | ⟨_known, first⟩ | ⟨other, shown, half⟩ |
            ⟨other, named, unquotable⟩)
          · exact unknown dialect
          · exact accepted _ _ first.1
          · rw [correlated, Except.ok.injEq] at other
            subst other
            exact absurd ((told _ shown).symm.trans half) (by decide)
          · rw [isStem_iff, ← name] at named
            rw [named] at unquotable
            exact unquotable ((offered List.mem_cons_self).mp
              (proper.files status View.annotated List.mem_cons_self))
        · intro unspoilt
          refine ⟨Or.inl status, fun _succeeds view known => (offered known).mpr ?_⟩
          by_contra unquotable
          exact unspoilt (.name correlated stem unquotable)
      · rw [← reached] at status
        exact iff_of_false (not_answeredProperly_of_breakdown status)
          (not_not_intro (.text correlated shown half))

/-- A body that is read is answered properly, with a document and files or with the reason why there
is none, just where nothing spoils it: half a surrogate pair that would have to be told, a number of
too many digits, or a stem that cannot be quoted as it is. -/
theorem answeredProperly_iff (loaded : loadPalette environment = .ok palette)
    (separated : loadLineSeparator environment = .ok separator)
    (read : Submission.read body = .ok submission) :
    AnsweredProperly environment body submission ↔
      ¬ Spoilt environment (Disguised.of submission) := by
  have outcome := outcome_correlateSubmission loaded separated (Disguised.of submission)
  cases same : correlateSubmission environment (Disguised.of submission) with
  | error reply =>
      rw [same] at outcome
      exact answeredProperly_iff_of_uncorrelated read same outcome
  | ok correlation =>
      rw [same] at outcome
      exact answeredProperly_iff_of_correlated read same outcome

end

/-! ### Names that can be quoted, and one that cannot -/

/-- A submission of nothing, for a source of some name. -/
def submissionNamed (name : String) : Submission EditorText :=
  { listing := EditorText.ofString ""
    target := EditorText.ofString "a.c"
    source := EditorText.ofString ""
    sourceName := EditorText.ofString name
    dialect := EditorText.ofString "msvc" }

theorem texts_submissionNamed (name : String) :
    (Disguised.of (submissionNamed name)).texts =
      { listing := "", target := "a.c", source := "", sourceName := name, dialect := "msvc" } := by
  unfold Disguised.of submissionNamed Submission.map
  simp only [Disguise.putOn_ofString]

theorem correlateSubmission_named (name : String) :
    correlateSubmission {} (Disguised.of (submissionNamed name)) =
      .ok { sourceName := name, entries := [] } := by
  have found : Listing.findDialect "msvc" = .ok Listing.Msvc.dialect := rfl
  have loaded : loadPalette {} = .ok defaultPalette := rfl
  have separated : (Presentation.configured {} defaultPalette).separator = .ok "\r\n" := by
    decide +kernel
  unfold correlateSubmission
  rw [texts_submissionNamed]
  simp only [found, loaded]
  rw [correlate_nothing _ _ _ separated]
  rfl

theorem read_of_toOption {body : String} {submission : Submission EditorText}
    (read : (Submission.read body).toOption = some submission) :
    Submission.read body = .ok submission := by
  cases same : Submission.read body with
  | error rejection =>
      rw [same] at read
      cases read
  | ok other =>
      rw [same] at read
      rw [Option.some.inj read]

def accentedBody : String :=
  "\x7b\"listing_text\": \"\", \"target_file_path\": \"a.c\", \"source_text\": \"\", " ++
    "\"source_filename\": \"na\u00efve.old.c\"\x7d"

/-- A name with a letter beyond the plain ones, and with two dots, is answered properly. -/
theorem answeredProperly_accented :
    loadPalette {} = .ok defaultPalette ∧ loadLineSeparator {} = .ok "\r\n" ∧
      Submission.read accentedBody = .ok (submissionNamed "na\u00efve.old.c") ∧
      AnsweredProperly {} accentedBody (submissionNamed "na\u00efve.old.c") := by
  have loaded : loadPalette {} = .ok defaultPalette := rfl
  have separated : loadLineSeparator {} = .ok "\r\n" := by decide +kernel
  have read : Submission.read accentedBody = .ok (submissionNamed "na\u00efve.old.c") :=
    read_of_toOption (by decide +kernel)
  have correlated := correlateSubmission_named "na\u00efve.old.c"
  have outcome := outcome_correlateSubmission loaded separated
    (Disguised.of (submissionNamed "na\u00efve.old.c"))
  rw [correlated] at outcome
  refine ⟨loaded, separated, read, (answeredProperly_iff loaded separated read).mpr ?_⟩
  cases outcome with
  | correlated dialect accepted name =>
      rintro (⟨unknown, _half⟩ | ⟨_known, first⟩ | ⟨other, shown, half⟩ |
        ⟨other, named, unquotable⟩)
      · exact unknown dialect
      · exact accepted _ _ first.1
      · have unworn : (Disguised.of (submissionNamed "na\u00efve.old.c")).disguise.isWornIn
            "na\u00efve.old.c" = false := by
          decide +kernel
        rw [correlated, Except.ok.injEq] at other
        subst other
        rw [documentTexts, List.flatMap_nil, List.mem_singleton] at shown
        rw [shown, unworn] at half
        cases half
      · have quotable : MadeOf Quotable (stemOf "na\u00efve.old.c") := by
          decide +kernel
        rw [isStem_iff, texts_submissionNamed] at named
        rw [named] at unquotable
        exact unquotable quotable

def quotedBody : String :=
  "\x7b\"listing_text\": \"\", \"target_file_path\": \"a.c\", \"source_text\": \"\", " ++
    "\"source_filename\": \"a\\\"b.c\"\x7d"

/-- A quote in the name of a source ends the name of its file before the end. -/
theorem quote_ends_name :
    Submission.read quotedBody = .ok (submissionNamed "a\"b.c") ∧
      (answer {} (renderRequest View.annotated quotedBody)).disposition? =
        some "attachment; filename=\"a\"b-annotated.asm\"" ∧
      fileNameOf? "attachment; filename=\"a\"b-annotated.asm\"" = none ∧
      ¬ AnsweredProperly {} quotedBody (submissionNamed "a\"b.c") := by
  have read : Submission.read quotedBody = .ok (submissionNamed "a\"b.c") :=
    read_of_toOption (by decide +kernel)
  have correlated := correlateSubmission_named "a\"b.c"
  have outcome := outcome_correlateSubmission (rfl : loadPalette {} = .ok defaultPalette)
    (by decide +kernel : loadLineSeparator {} = .ok "\r\n") (Disguised.of (submissionNamed "a\"b.c"))
  rw [correlated] at outcome
  have offered : (fileReply (Disguised.of (submissionNamed "a\"b.c")).disguise View.annotated
      { sourceName := "a\"b.c", entries := [] }).disposition? =
      some "attachment; filename=\"a\"b-annotated.asm\"" := by
    decide +kernel
  have unquotable : ¬ MadeOf Quotable (stemOf "a\"b.c") := by
    decide +kernel
  have named : IsStem (Disguised.of (submissionNamed "a\"b.c")).texts.sourceName
      (stemOf "a\"b.c") := by
    rw [isStem_iff, texts_submissionNamed]
  refine ⟨read, ?_, by decide +kernel, ?_⟩
  · rw [answer_renderRequest read List.mem_cons_self,
      answerRender_of_correlated List.mem_cons_self correlated]
    exact offered
  · rw [answeredProperly_iff_of_correlated read correlated outcome]
    exact not_not_intro (.name correlated named unquotable)

end ListingAtlas.Service
