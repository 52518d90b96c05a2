import ListingAtlas.Correlation.Assembly
import ListingAtlas.Proofs.Text.Disguise
import ListingAtlas.Proofs.Text.Lines
import ListingAtlas.Service.Answer

/-!
The lines of a source document. They are what stands between the feeds of the text in which every
break is one, so that it makes no difference whether a document is read from a file, where breaks
are written anew, or submitted as it is.
-/

namespace ListingAtlas

open Text

/-! ### Between feeds -/

namespace Text

/-- A text with every break written as one line feed. -/
def withFeeds (text : String) : String :=
  String.ofList (unifyBreaks text.toList)

theorem toList_withFeeds (text : String) : (withFeeds text).toList = unifyBreaks text.toList :=
  String.toList_ofList

/-- A text without the feed that ends it. -/
def withoutLastFeed (text : List Char) : List Char :=
  if text.getLast? = some '\n' then text.dropLast else text

theorem withoutLastFeed_feed (front : List Char) : withoutLastFeed (front ++ ['\n']) = front := by
  rw [withoutLastFeed, if_pos List.getLast?_concat, List.dropLast_concat]

theorem withoutLastFeed_other {text : List Char} (other : text.getLast? ≠ some '\n') :
    withoutLastFeed text = text :=
  if_neg other

theorem splitOn_feed (front : List Char) :
    (front ++ ['\n']).splitOn '\n' = front.splitOn '\n' ++ [[]] :=
  List.splitOn_append_cons_self front []

/-- Nothing stands behind the last feed just if there is nothing or a feed ends the text. -/
theorem getLast?_splitOn_iff (text : List Char) :
    (text.splitOn '\n').getLast? = some [] ↔ text = [] ∨ text.getLast? = some '\n' := by
  constructor
  · intro last
    obtain ⟨front, whole⟩ := List.getLast?_eq_some_iff.mp last
    have joined : ['\n'].intercalate (text.splitOn '\n') = text := List.intercalate_splitOn '\n'
    rw [whole] at joined
    cases front with
    | nil => exact Or.inl joined.symm
    | cons line lines =>
        rw [intercalate_concat_nil (List.cons_ne_nil _ _)] at joined
        rw [← joined]
        exact Or.inr List.getLast?_concat
  · rintro (rfl | last)
    · rfl
    · obtain ⟨front, rfl⟩ := List.getLast?_eq_some_iff.mp last
      rw [splitOn_feed, List.getLast?_concat]

/-- There is one line more than there are feeds. -/
theorem length_splitOn (text : List Char) :
    (text.splitOn '\n').length = text.count '\n' + 1 := by
  induction text with
  | nil => rfl
  | cons character text ih =>
      rw [List.splitOn_cons_eq_if_modifyHead]
      by_cases feed : character = '\n'
      · rw [feed, if_pos (by decide), List.length_cons, ih, List.count_cons_self]
      · rw [if_neg (by simpa using feed), List.length_modifyHead, ih,
          List.count_cons_of_ne feed]

end Text

/-! ### The lines of a document -/

theorem sourceLines_eq (source : String) :
    sourceLines source =
      if (withFeeds source).toList = [] then []
      else ((withoutLastFeed (withFeeds source).toList).splitOn '\n').map String.ofList := by
  have ending (lines : List (List Char)) :
      ((lines.map String.ofList).getLast? == some "") = true ↔ lines.getLast? = some [] := by
    rw [beq_iff_eq, List.getLast?_map]
    cases lines.getLast? with
    | none => simp
    | some last => simp [String.ofList_eq_empty_iff]
  rw [sourceLines, linesAtBreaks, breakLines_eq_splitOn, ← toList_withFeeds]
  generalize (withFeeds source).toList = unified
  simp only [ending, getLast?_splitOn_iff]
  by_cases nothing : unified = []
  · rw [nothing]
    rfl
  · rw [if_neg nothing]
    by_cases last : unified.getLast? = some '\n'
    · obtain ⟨front, rfl⟩ := List.getLast?_eq_some_iff.mp last
      rw [if_pos (Or.inr last), withoutLastFeed_feed, splitOn_feed, List.map_append,
        List.map_singleton, List.dropLast_concat]
    · rw [if_neg (by simp [nothing, last]), withoutLastFeed_other last]

/-- A line of a document holds nothing that breaks lines. -/
theorem not_mem_of_sourceLines {source line : String} (member : line ∈ sourceLines source)
    {stop : Char} (breaks : stop = '\n' ∨ stop = '\r') : stop ∉ line.toList := by
  have among : line ∈ linesAtBreaks source := by
    unfold sourceLines at member
    simp only at member
    split at member
    · exact List.dropLast_subset _ member
    · exact member
  obtain ⟨characters, broken, rfl⟩ := List.mem_map.mp among
  rw [String.toList_ofList]
  exact not_mem_of_breakLines (breaks.imp_right fun isReturn => ⟨isReturn, rfl⟩) _ _ broken

/-- A document with every break written as a feed has the same lines. -/
theorem sourceLines_withFeeds (source : String) :
    sourceLines (withFeeds source) = sourceLines source := by
  rw [sourceLines, sourceLines, linesAtBreaks, linesAtBreaks, toList_withFeeds,
    breakLines_unifyBreaks]

/-- The lines make the text again, but for a feed that ends it. -/
theorem intercalate_sourceLines (source : String) :
    ("\n".intercalate (sourceLines source)).toList =
      withoutLastFeed (withFeeds source).toList := by
  have feed : "\n".toList = ['\n'] := rfl
  rw [sourceLines_eq, String.toList_intercalate, feed]
  by_cases nothing : (withFeeds source).toList = []
  · rw [if_pos nothing, nothing]
    rfl
  · rw [if_neg nothing, List.map_map]
    have same : String.toList ∘ String.ofList = id := funext fun _line => String.toList_ofList
    rw [same, List.map_id, List.intercalate_splitOn]

/-- A line for each feed, and one more for what stands behind the last of them. -/
theorem length_sourceLines (source : String) :
    (sourceLines source).length = (withFeeds source).toList.count '\n' +
      if withFeeds source = "" ∨ (withFeeds source).toList.getLast? = some '\n' then 0 else 1 := by
  rw [sourceLines_eq]
  simp only [← String.toList_eq_nil_iff]
  generalize (withFeeds source).toList = unified
  by_cases nothing : unified = []
  · rw [if_pos nothing, if_pos (Or.inl nothing), nothing]
    rfl
  · rw [if_neg nothing, List.length_map, length_splitOn]
    by_cases last : unified.getLast? = some '\n'
    · obtain ⟨front, rfl⟩ := List.getLast?_eq_some_iff.mp last
      rw [if_pos (Or.inr last), withoutLastFeed_feed, List.count_append, List.count_singleton_self]
    · rw [if_neg (by simp [nothing, last]), withoutLastFeed_other last]

/-- A file is read with every break written as a feed. -/
theorem Workspace.textOf_eq (content : Bytes) :
    Workspace.textOf content = withFeeds (decodeUtf8 content) := by
  rw [Workspace.textOf, withFeeds, decodeUtf8, String.toList_ofList]

/-- The lines of a document, as its text with every break written as a feed tells them: none holds
anything that breaks lines, joined by feeds they make this text but for a feed that ends it, and
there are as many as it has feeds, and one more if it goes on behind the last. This text has the
same lines. So the lines of a document that is read from a file are those of the same document
submitted as it is. -/
theorem sourceLines_whatever_breaks (source : String) :
    sourceLines source = sourceLines (withFeeds source) ∧
      (∀ line ∈ sourceLines source, '\r' ∉ line.toList ∧ '\n' ∉ line.toList) ∧
      ("\n".intercalate (sourceLines source)).toList =
        withoutLastFeed (withFeeds source).toList ∧
      ((sourceLines source).length = (withFeeds source).toList.count '\n' +
        if withFeeds source = "" ∨ (withFeeds source).toList.getLast? = some '\n' then 0 else 1) ∧
      ∀ (workspace : Workspace) (path : Path) (content : Bytes)
        (submission : Service.Submission EditorText),
        Workspace.holdsNull path = false → workspace.readBytes path = .ok content →
        decodeUtf8 content = source → submission.source = EditorText.ofString source →
        ∃ text, workspace.readSource path = .ok text ∧
          sourceLines text = sourceLines (Service.Disguised.of submission).texts.source := by
  refine ⟨(sourceLines_withFeeds source).symm, ?_, intercalate_sourceLines source,
    length_sourceLines source, ?_⟩
  · intro line member
    exact ⟨not_mem_of_sourceLines member (Or.inr rfl), not_mem_of_sourceLines member (Or.inl rfl)⟩
  · intro workspace path content submission noNull read decoded submitted
    have shown : (Service.Disguised.of submission).texts.source = source := by
      change (Disguise.choose submission.toList).putOn submission.source = source
      rw [submitted, Disguise.putOn_ofString]
    refine ⟨Workspace.textOf content, ?_, ?_⟩
    · rw [Workspace.readSource, noNull, if_neg (by simp), read]
    · rw [Workspace.textOf_eq, decoded, shown]
      exact sourceLines_withFeeds source

/-- Breaks of all kinds beside each other, the last of them at the end. -/
example : sourceLines "int x;\r\n\r\n\n\rint y;\r" = ["int x;", "", "", "", "int y;"] := by
  decide +kernel

end ListingAtlas
