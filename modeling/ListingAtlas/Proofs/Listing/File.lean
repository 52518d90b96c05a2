import ListingAtlas.Listing.Msvc
import ListingAtlas.Proofs.Listing.Boundary
import ListingAtlas.Proofs.Listing.Directives
import ListingAtlas.Proofs.Text.Classes
import ListingAtlas.Proofs.Text.Lines
import ListingAtlas.Proofs.Text.Utf8

/-!
Listings that are files. A file is read with every carriage return taken for the end of a line, while
a line of a listing ends at a line feed only. So a file has the outcome of its text if a line feed
follows every return; and where one stands alone, what is written behind it can tell the difference.
-/

namespace ListingAtlas

open Text

/-! ### The lines of a file -/

theorem Workspace.readListing_eq_ok {workspace : Workspace} {path : Path} {content : Bytes}
    (noNull : Workspace.holdsNull path = false)
    (read : workspace.readBytes path = .ok content) :
    workspace.readListing path = .ok (Workspace.textOf content) := by
  rw [Workspace.readListing, noNull, if_neg (by simp), read]

theorem linesAtFeeds_textOf (content : Bytes) :
    linesAtFeeds (Workspace.textOf content) = linesAtBreaks (decodeUtf8 content) := by
  rw [linesAtFeeds, linesAtBreaks, Workspace.textOf, decodeUtf8, String.toList_ofList,
    String.toList_ofList, breakLines_unifyBreaks]

/-- Whether returns break lines matters exactly if some return stands alone. -/
theorem linesAtBreaks_eq_linesAtFeeds_iff (text : String) :
    linesAtBreaks text = linesAtFeeds text ↔ ReturnsPaired text.toList := by
  rw [← loneReturns_eq_zero_iff]
  constructor
  · intro same
    have count := congrArg List.length same
    rw [linesAtBreaks, linesAtFeeds, List.length_map, List.length_map,
      length_breakLines_true] at count
    omega
  · intro none
    rw [linesAtBreaks, linesAtFeeds, breakLines_eq_of_loneReturns none]

namespace Listing

theorem blocksOfFile_eq {workspace : Workspace} {path : Path} {content : Bytes}
    (noNull : Workspace.holdsNull path = false)
    (read : workspace.readBytes path = .ok content) (dialect : Dialect) (target : Target) :
    blocksOfFile dialect target workspace path =
      blocksOfLines dialect target (linesAtBreaks (decodeUtf8 content)) := by
  rw [blocksOfFile, Workspace.readListing_eq_ok noNull read, ← linesAtFeeds_textOf]
  rfl

/-! ### Listings that do not name the target -/

/-- Where no line names the target, reading gets nowhere. -/
theorem run_elsewhere {dialect : Dialect} {target : Target} {lines : List String}
    (other : ∀ line ∈ lines, dialect.namesFile line target.path = false) (position : Int) :
    run dialect target State.initial position lines = .ok State.initial := by
  apply run_idle
  intro line member
  by_cases kind : dialect.classify line = .fileDirective
  · exact .leave kind (other line member)
  · exact .outside kind rfl

namespace Msvc

theorem length_trimChars_le (characters : List Char) :
    (trimChars characters).length ≤ characters.length := by
  have shorter (list : List Char) : (dropBlanks list).length ≤ list.length :=
    (List.dropWhile_sublist isBlank).length_le
  have front := shorter characters
  have back := shorter (dropBlanks characters).reverse
  rw [List.length_reverse] at back
  rw [trimChars, dropBlanksEnd, List.length_reverse]
  exact Nat.le_trans back front

theorem length_lt_of_namesFile {line path : String} (names : namesFile line path = true) :
    path.toList.length < line.toList.length := by
  have trimmed : trimChars line.toList = filePrefix ++ path.toList := eq_of_beq names
  have bound := length_trimChars_le line.toList
  rw [trimmed, List.length_append] at bound
  have start : filePrefix.length = 7 := by decide
  omega

/-! ### A directive that is none -/

/-- A path of so many characters, and one more. -/
def longPath (length : Nat) : String :=
  String.ofList (List.replicate length 'a' ++ ['a'])

theorem stepped_fileDirective (length : Nat) (lineCount : Int) :
    Stepped dialect ⟨longPath length, lineCount⟩ (fileDirective (longPath length)) State.initial
      { State.initial with inTarget := true } := by
  have trimmed : trimEnd (longPath length) = longPath length := by
    rw [trimEnd, longPath, String.toList_ofList, dropBlanksEnd_append_stop _ (by decide) []]
    rfl
  have nonempty : longPath length ≠ "" := by
    rw [longPath, Ne, ← String.toList_inj, String.toList_ofList]
    exact List.concat_ne_nil _ _
  exact .enter (classify_fileDirective _)
    ((namesFile_fileDirective_iff _ _).mpr ⟨trimmed.symm, nonempty⟩)

theorem step_malformed {target : Target} {state : State} (inside : state.inTarget = true)
    (position : Int) :
    step dialect target state position "; 1x :" =
      .error (.malformedDirective position "; 1x :") := by
  have refused : directiveNumber position "; 1x :" "1x" =
      .error (.malformedDirective position "; 1x :") := by
    exact directiveNumber_eq_error_iff.mpr (Or.inl ⟨by decide, rfl⟩)
  have kind : dialect.classify "; 1x :" = .lineDirective := by decide +kernel
  have found : dialect.lineToken? "; 1x :" = some "1x" := by decide +kernel
  exact step_eq_error_iff.mpr ⟨inside, kind, "1x", found, refused⟩

/-- Behind lines too short to name the file, the failure tells how many they are. -/
theorem blocksOfLines_malformed {length : Nat} {first : List String}
    (short : ∀ line ∈ first, line.toList.length ≤ length) (lineCount : Int) :
    blocksOfLines dialect ⟨longPath length, lineCount⟩
        (first ++ [fileDirective (longPath length), "; 1x :"]) =
      .error (.malformedDirective (1 + first.length + 1) "; 1x :") := by
  have other : ∀ line ∈ first, dialect.namesFile line (longPath length) = false := by
    intro line member
    rw [← Bool.not_eq_true]
    intro names
    have long := length_lt_of_namesFile names
    have few := short line member
    rw [longPath, String.toList_ofList, List.length_append, List.length_replicate] at long
    omega
  rw [blocksOfLines, run_append, run_elsewhere other]
  change (run dialect _ State.initial (1 + first.length) _).map State.blocks = _
  rw [run_cons, step_of_stepped (stepped_fileDirective length lineCount)]
  change (run dialect _ _ (1 + first.length + 1) _).map State.blocks = _
  rw [run_cons, step_malformed rfl]
  rfl

/-- The end of a line, a directive for a file, and one for a line that has no number. -/
def malformedEnd (length : Nat) : String :=
  "x" ++ "\n" ++ fileDirective (longPath length) ++ ("\n" ++ "; 1x :")

theorem not_mem_fileDirective (character : Char) (notLetter : character ≠ 'a')
    (other : character ∉ filePrefix) (length : Nat) :
    character ∉ (fileDirective (longPath length)).toList := by
  rw [toList_fileDirective, longPath, String.toList_ofList]
  simp [other, notLetter]

/-- Put behind a text, these are lines of their own. -/
theorem breakLines_malformedEnd (returnBreaks : Bool) (text : List Char) (length : Nat) :
    (breakLines returnBreaks (text ++ (malformedEnd length).toList)).map String.ofList =
      (breakLines returnBreaks (text ++ ['x'])).map String.ofList ++
        [fileDirective (longPath length), "; 1x :"] := by
  have noFeed := not_mem_fileDirective '\n' (by decide) (by decide) length
  have noReturn := not_mem_fileDirective '\r' (by decide) (by decide) length
  have last : breakLines returnBreaks "; 1x :".toList = ["; 1x :".toList] :=
    breakLines_of_no_break (by decide) (by decide) returnBreaks
  have ended : withoutReturn (text ++ ['x']) = text ++ ['x'] :=
    withoutReturn_append text (by decide) []
  have whole : text ++ (malformedEnd length).toList = (text ++ ['x']) ++ '\n' ::
      ((fileDirective (longPath length)).toList ++ '\n' :: "; 1x :".toList) := by
    simp [malformedEnd]
  rw [whole, breakLines_feed, breakLines_feed, ended, withoutReturn_of_not_mem noReturn,
    breakLines_of_no_break noFeed noReturn, last, List.map_append]
  simp

/-- How the reading of any text goes on: the failure tells how many lines the text has. -/
theorem blocksOfLines_malformedEnd (returnBreaks : Bool) (text : List Char) :
    let length := text.length + 1
    blocksOfLines dialect ⟨longPath length, 0⟩
        ((breakLines returnBreaks (text ++ (malformedEnd length).toList)).map String.ofList) =
      .error (.malformedDirective (1 + (breakLines returnBreaks (text ++ ['x'])).length + 1)
        "; 1x :") := by
  intro length
  have short : ∀ line ∈ (breakLines returnBreaks (text ++ ['x'])).map String.ofList,
      line.toList.length ≤ length := by
    intro line member
    obtain ⟨characters, known, rfl⟩ := List.mem_map.mp member
    have bound := length_le_of_breakLines returnBreaks (text ++ ['x']) characters known
    rw [List.length_append, List.length_singleton] at bound
    rw [String.toList_ofList]
    exact bound
  rw [breakLines_malformedEnd, blocksOfLines_malformed short, List.length_map]

theorem toList_malformedEnd (length : Nat) :
    (malformedEnd length).toList = 'x' :: '\n' ::
      ((fileDirective (longPath length)).toList ++ '\n' :: "; 1x :".toList) := by
  simp [malformedEnd]

theorem plain_malformedEnd (length : Nat) : Plain (malformedEnd length).toList := by
  have start : Plain filePrefix := by decide
  have letters : Plain (List.replicate length 'a' ++ ['a']) := by
    intro character member
    rw [← List.replicate_succ', List.mem_replicate] at member
    rw [member.2]
    decide
  have named : Plain (fileDirective (longPath length)).toList := by
    rw [toList_fileDirective, longPath, String.toList_ofList]
    exact List.forall_mem_append.mpr ⟨start, letters⟩
  have last : Plain ('\n' :: "; 1x :".toList) := by decide
  rw [toList_malformedEnd]
  exact List.forall_mem_cons.mpr ⟨by decide, List.forall_mem_cons.mpr
    ⟨by decide, List.forall_mem_append.mpr ⟨named, last⟩⟩⟩

theorem not_mem_malformedEnd (length : Nat) : '\r' ∉ (malformedEnd length).toList := by
  have noReturn := not_mem_fileDirective '\r' (by decide) (by decide) length
  rw [toList_malformedEnd]
  simp [noReturn]

/-! ### Files and their texts -/

/-- A workspace with one file. -/
def single (content : Bytes) : Workspace :=
  (Workspace.empty ⟨"/", []⟩).setFile ["listing"] content

def singlePath : Path :=
  ⟨"/", ["listing"]⟩

theorem readBytes_single (content : Bytes) :
    (single content).readBytes singlePath = .ok content := by
  rfl

/-- Reading a file has the outcome of reading its text, whatever plain text without returns stands
behind, exactly if a line feed follows each carriage return of it. -/
theorem blocksOfFile_same_outcome_iff (content : Bytes) :
    (∀ more : String, Plain more.toList → '\r' ∉ more.toList →
      ∀ (workspace : Workspace) (path : Path) (target : Target),
        Workspace.holdsNull path = false →
        workspace.readBytes path = .ok (content ++ encodeUtf8 more) →
        blocksOfFile dialect target workspace path =
          blocksOf dialect target (decodeUtf8 (content ++ encodeUtf8 more))) ↔
      ReturnsPaired (decodeUtf8 content).toList := by
  constructor
  · intro same
    -- The path is longer than every line of the text: so reading gets to the malformed directive,
    -- and its failure counts the lines in front of it.
    let text := (decodeUtf8 content).toList
    let more := malformedEnd (text.length + 1)
    have plain : Plain more.toList := plain_malformedEnd _
    have noNull : Workspace.holdsNull singlePath = false := by decide +kernel
    have read := readBytes_single (content ++ encodeUtf8 more)
    have agreed := same more plain (not_mem_malformedEnd _) _ _ ⟨longPath (text.length + 1), 0⟩
      noNull read
    rw [blocksOfFile_eq noNull read, blocksOf, decodeUtf8_append_plain content plain,
      linesAtBreaks, linesAtFeeds, String.toList_append, blocksOfLines_malformedEnd,
      blocksOfLines_malformedEnd] at agreed
    injection agreed with agreed
    injection agreed with positions
    rw [length_breakLines_true] at positions
    have none : loneReturns (text ++ ['x']) = 0 := by omega
    exact ((loneReturns_eq_zero_iff _).mp none).of_append (by decide)
  · intro paired more plain noReturn workspace path target noNull read
    have whole : ReturnsPaired (decodeUtf8 (content ++ encodeUtf8 more)).toList := by
      rw [decodeUtf8_append_plain content plain, String.toList_append]
      exact paired.append noReturn
    rw [blocksOfFile_eq noNull read, (linesAtBreaks_eq_linesAtFeeds_iff _).mpr whole, blocksOf]

/-- Lines that end with a return and a feed, the last of them written behind the rest. -/
theorem blocksOfFile_same_outcome_paired :
    let content := encodeUtf8 "; File a.c\r\n_TEXT SEGMENT\r\n; 1 : x\r\n"
    let more := "\tmov\n"
    let target : Target := { path := "a.c", lineCount := 1 }
    ReturnsPaired (decodeUtf8 content).toList ∧ Plain more.toList ∧ '\r' ∉ more.toList ∧
      Workspace.holdsNull singlePath = false ∧
      (single (content ++ encodeUtf8 more)).readBytes singlePath =
        .ok (content ++ encodeUtf8 more) ∧
      (blocksOfFile dialect target (single (content ++ encodeUtf8 more))
        singlePath).toOption.map Table.items = some [(1, ["\tmov"])] := by
  intro content more target
  have paired : ReturnsPaired (decodeUtf8 content).toList :=
    (loneReturns_eq_zero_iff _).mp (by decide +kernel)
  have plain : Plain more.toList := by decide +kernel
  have noReturn : '\r' ∉ more.toList := by decide +kernel
  have noNull : Workspace.holdsNull singlePath = false := by decide +kernel
  have read := readBytes_single (content ++ encodeUtf8 more)
  refine ⟨paired, plain, noReturn, noNull, read, ?_⟩
  rw [(blocksOfFile_same_outcome_iff content).mpr paired more plain noReturn _ _ target noNull read]
  decide +kernel

/-- A return in an instruction: the file breaks it in two, of which the second is no instruction. -/
theorem blocksOfFile_return_in_instruction :
    let content := encodeUtf8 "; File a.c\n_TEXT SEGMENT\n; 1 : x\n\tmov\rtail"
    let target : Target := { path := "a.c", lineCount := 1 }
    Workspace.holdsNull singlePath = false ∧
      (single content).readBytes singlePath = .ok content ∧
      (blocksOfFile dialect target (single content) singlePath).toOption.map Table.items =
        some [(1, ["\tmov"])] ∧
      (blocksOf dialect target (decodeUtf8 content)).toOption.map Table.items =
        some [(1, ["\tmov\rtail"])] := by
  refine ⟨?_, readBytes_single _, ?_, ?_⟩ <;> decide +kernel

end Msvc

end Listing

end ListingAtlas
