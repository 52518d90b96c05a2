import ListingAtlas.Listing.Msvc
import ListingAtlas.Proofs.Listing.Boundary
import ListingAtlas.Proofs.Listing.Directives
import ListingAtlas.Proofs.Text.Classes
import ListingAtlas.Proofs.Text.Lines

/-!
What a line directive quotes of the source. The dialect tries its other markers first, one of which
looks at nothing but the end of a line; so a quoted text that ends like the end of a procedure is
taken for one, and no other quoted text matters.
-/

namespace ListingAtlas

/-- A failure without the line that it quotes. -/
def Failure.unquoted : Failure → Failure
  | .malformedDirective position _ => .malformedDirective position ""
  | failure => failure

namespace Listing

open Text

/-! ### Lines that do the same -/

/-- Lines of one kind, with one number, do the same unless they name files or are collected. -/
structure Alike (dialect : Dialect) (one other : String) : Prop where
  kind : dialect.classify one = dialect.classify other
  token : dialect.lineToken? one = dialect.lineToken? other
  notFile : dialect.classify one ≠ .fileDirective
  notInstruction : dialect.classify one ≠ .instruction

theorem Stepped.alike {dialect : Dialect} {target : Target} {one other : String}
    {state next : State} (alike : Alike dialect one other)
    (stepped : Stepped dialect target one state next) : Stepped dialect target other state next := by
  cases stepped with
  | enter kind names => exact absurd kind alike.notFile
  | leave kind names => exact absurd kind alike.notFile
  | outside kind out => exact .outside (alike.kind ▸ kind) out
  | openSegment kind inside => exact .openSegment (alike.kind ▸ kind) inside
  | closeSegment kind inside => exact .closeSegment (alike.kind ▸ kind) inside
  | announce kind inside token found numeral short =>
      exact .announce (alike.kind ▸ kind) inside token (alike.token ▸ found) numeral short
  | unindent kind inside => exact .unindent (alike.kind ▸ kind) inside
  | collect kind inside inSegment sourceLine current => exact absurd kind alike.notInstruction
  | drop kind inside idle => exact absurd kind alike.notInstruction
  | ignore kind inside => exact .ignore (alike.kind ▸ kind) inside

theorem directiveNumber_unquoted {position : Int} {one token : String} {failure : Failure}
    (failed : directiveNumber position one token = .error failure) (other : String) :
    ∃ same, directiveNumber position other token = .error same ∧
      same.unquoted = failure.unquoted := by
  rcases directiveNumber_eq_error_iff.mp failed with ⟨malformed, rfl⟩ | ⟨numeral, long, rfl⟩
  · exact ⟨_, directiveNumber_eq_error_iff.mpr (Or.inl ⟨malformed, rfl⟩), rfl⟩
  · exact ⟨_, directiveNumber_eq_error_iff.mpr (Or.inr ⟨numeral, long, rfl⟩), rfl⟩

theorem Alike.step {dialect : Dialect} {one other : String} (alike : Alike dialect one other)
    (target : Target) (state : State) (position : Int) :
    (step dialect target state position other).mapError Failure.unquoted =
      (step dialect target state position one).mapError Failure.unquoted := by
  cases read : Listing.step dialect target state position one with
  | ok next => rw [step_of_stepped ((stepped_of_step read).alike alike) position]
  | error failure =>
      obtain ⟨inside, kind, token, found, failed⟩ := step_eq_error_iff.mp read
      obtain ⟨same, failedToo, unquoted⟩ := directiveNumber_unquoted failed other
      rw [step_eq_error_iff.mpr
        ⟨inside, alike.kind ▸ kind, token, alike.token ▸ found, failedToo⟩]
      exact congrArg Except.error unquoted

/-- What follows two outcomes that tell the same tells the same. -/
theorem unquoted_bind {Result Final : Type} {one other : Except Failure Result}
    (same : other.mapError Failure.unquoted = one.mapError Failure.unquoted)
    (rest : Result → Except Failure Final) :
    (other.bind rest).mapError Failure.unquoted = (one.bind rest).mapError Failure.unquoted := by
  cases other with
  | error failure =>
      cases one with
      | error failed => exact congrArg Except.error (Except.error.inj same)
      | ok result => cases same
  | ok result =>
      cases one with
      | error failed => cases same
      | ok result' => rw [Except.ok.inj same]

/-- Of two lines that do the same, one may stand for the other. -/
theorem blocksOfLines_replace {dialect : Dialect} {one other : String}
    (alike : Alike dialect one other) (target : Target) (before after : List String) :
    (blocksOfLines dialect target (before ++ [other] ++ after)).mapError Failure.unquoted =
      (blocksOfLines dialect target (before ++ [one] ++ after)).mapError Failure.unquoted := by
  have replaced : (run dialect target State.initial 1 (before ++ [other] ++ after)).mapError
      Failure.unquoted =
      (run dialect target State.initial 1 (before ++ [one] ++ after)).mapError
        Failure.unquoted := by
    rw [List.append_assoc, List.append_assoc, run_append, run_append]
    cases run dialect target State.initial 1 before with
    | error failure => rfl
    | ok middle =>
        change (run dialect target middle _ (other :: after)).mapError _ =
          (run dialect target middle _ (one :: after)).mapError _
        rw [run_cons, run_cons]
        exact unquoted_bind (alike.step target middle _) _
  exact unquoted_bind replaced fun final => .ok final.blocks

/-! ### Line directives -/

namespace Msvc

/-- Whether a character is a blank within a line. -/
def isGap (character : Char) : Bool :=
  isBlank character && character != '\n'

/-- Everything of a line directive before what it quotes: a semicolon, blanks, a token that starts
with a digit, blanks, and a colon. -/
structure DirectiveHead where
  opening : List Char
  first : Char
  more : List Char
  closing : List Char
  opening_ne_nil : opening ≠ []
  openingGap : opening.all isGap = true
  firstDigit : isDigit first = true
  moreWord : more.all isWord = true
  closing_ne_nil : closing ≠ []
  closingGap : closing.all isGap = true

theorem all_isBlank_of_isGap {characters : List Char} (gap : characters.all isGap = true) :
    characters.all isBlank = true := by
  rw [List.all_eq_true] at gap ⊢
  intro character member
  have both := gap character member
  rw [isGap, Bool.and_eq_true] at both
  exact both.1

theorem not_mem_of_isGap {characters : List Char} (gap : characters.all isGap = true) :
    '\n' ∉ characters := by
  intro member
  have feed := List.all_eq_true.mp gap '\n' member
  exact absurd feed (by decide)

namespace DirectiveHead

variable (head : DirectiveHead)

def token : List Char :=
  head.first :: head.more

def beforeColon : List Char :=
  ';' :: (head.opening ++ head.token ++ head.closing)

/-- The directive that quotes a text. -/
def quoting (echo : String) : String :=
  String.ofList (head.beforeColon ++ ':' :: echo.toList)

variable {head}

theorem toList_quoting (echo : String) :
    (head.quoting echo).toList = ';' :: (head.opening ++ head.first :: (head.more ++
      (head.closing ++ ':' :: echo.toList))) := by
  rw [quoting, String.toList_ofList, beforeColon, token]
  simp only [List.append_assoc, List.cons_append]

theorem not_mem_beforeColon : '\n' ∉ head.beforeColon := by
  have first : head.first ≠ '\n' := by
    intro feed
    have digit := head.firstDigit
    rw [feed] at digit
    exact absurd digit (by decide)
  have more : '\n' ∉ head.more := by
    intro member
    have word := List.all_eq_true.mp head.moreWord '\n' member
    exact absurd word (by decide)
  have opening := not_mem_of_isGap head.openingGap
  have closing := not_mem_of_isGap head.closingGap
  simp [beforeColon, token, first.symm, more, opening, closing]

theorem not_mem_quoting {echo : String} (oneLine : '\n' ∉ echo.toList) :
    '\n' ∉ (head.quoting echo).toList := by
  rw [quoting, String.toList_ofList, List.mem_append, List.mem_cons]
  rintro (member | same | member)
  · exact not_mem_beforeColon member
  · exact absurd same (by decide)
  · exact oneLine member

/-! ### What a line directive is taken for -/

/-- The parts of the directive that quotes a text. -/
def directive (head : DirectiveHead) (echo : String) : Directive (head.quoting echo) where
  opening := head.opening
  first := head.first
  more := head.more
  closing := head.closing
  echo := echo.toList
  written := toList_quoting echo
  opening_ne_nil := head.opening_ne_nil
  openingBlank := all_isBlank_of_isGap head.openingGap
  firstDigit := head.firstDigit
  moreWord := head.moreWord
  closing_ne_nil := head.closing_ne_nil
  closingBlank := all_isBlank_of_isGap head.closingGap

theorem lineToken?_quoting (echo : String) :
    lineToken? (head.quoting echo) = some (String.ofList head.token) :=
  (head.directive echo).lineToken?_eq

/-- No line directive announces a file: where the letter would stand there is a blank or a digit. -/
theorem announcedFile?_quoting (echo : String) : announcedFile? (head.quoting echo) = none := by
  have other : startsWith filePrefix (head.quoting echo) = false := by
    rw [← Bool.not_eq_true, startsWith, List.isPrefixOf_iff_prefix, toList_quoting]
    rintro ⟨path, whole⟩
    have start : filePrefix = [';', ' ', 'F', 'i', 'l', 'e', ' '] := by decide
    -- The third character decides: a letter there, but a blank or a digit in a directive.
    rw [start] at whole
    have openingGap := head.openingGap
    have firstDigit := head.firstDigit
    cases opening : head.opening with
    | nil => exact head.opening_ne_nil opening
    | cons blank blanks =>
        rw [opening] at whole openingGap
        cases blanks with
        | nil =>
            rw [List.singleton_append] at whole
            injection whole with _semicolon whole
            injection whole with _blank whole
            injection whole with letter _rest
            rw [← letter] at firstDigit
            exact absurd firstDigit (by decide)
        | cons second blanks =>
            rw [List.cons_append, List.cons_append] at whole
            injection whole with _semicolon whole
            injection whole with _blank whole
            injection whole with letter _rest
            rw [← letter] at openingGap
            rw [List.all_cons, List.all_cons, Bool.and_eq_true, Bool.and_eq_true] at openingGap
            exact absurd openingGap.2.1 (by decide)
  rw [announcedFile?, other, if_neg (by simp)]

theorem startsWith_codeSegment_quoting (echo : String) :
    startsWith codeSegment (head.quoting echo) = false := by
  rw [startsWith, toList_quoting]
  rfl

theorem endsWith_quoting {marker : String} (absent : ':' ∉ marker.toList) (echo : String) :
    endsWith marker (head.quoting echo) = endsWith marker echo := by
  have colon : isBlank ':' = false := by decide
  unfold endsWith quoting
  rw [String.toList_ofList, dropBlanksEnd_append_stop _ colon, Bool.eq_iff_iff,
    List.isSuffixOf_iff_suffix, List.isSuffixOf_iff_suffix, suffix_append_stop absent]

theorem opensSegment_quoting (echo : String) : opensSegment (head.quoting echo) = false := by
  rw [opensSegment, startsWith_codeSegment_quoting, Bool.false_and]

theorem closesSegment_quoting (echo : String) :
    closesSegment (head.quoting echo) = endsWith "ENDP" echo := by
  rw [closesSegment, startsWith_codeSegment_quoting, Bool.false_and, Bool.or_false,
    endsWith_quoting (by decide)]

theorem classify_quoting (echo : String) :
    dialect.classify (head.quoting echo) =
      if endsWith "ENDP" echo then .segmentClose else .lineDirective := by
  simp only [Dialect.classify, dialect, announcedFile?_quoting, opensSegment_quoting,
    closesSegment_quoting, lineToken?_quoting, Option.isSome_none, Option.isSome_some,
    Bool.false_eq_true, if_false, if_true]

theorem alike_quoting {echo other : String} (same : endsWith "ENDP" echo = endsWith "ENDP" other) :
    Alike dialect (head.quoting echo) (head.quoting other) where
  kind := by rw [classify_quoting, classify_quoting, same]
  token := (lineToken?_quoting echo).trans (lineToken?_quoting other).symm
  notFile := by
    rw [classify_quoting]
    split <;> simp
  notInstruction := by
    rw [classify_quoting]
    split <;> simp

/-! ### Directives in a listing -/

/-- A directive without the return of its line break is that of the quoted text without it. -/
theorem quoting_withoutReturn (echo : String) :
    String.ofList (withoutReturn (head.quoting echo).toList) =
      head.quoting (String.ofList (withoutReturn echo.toList)) := by
  rw [quoting, quoting, String.toList_ofList, String.toList_ofList,
    withoutReturn_append _ (by decide)]

theorem endsWith_withoutReturn (marker echo : String) :
    endsWith marker (String.ofList (withoutReturn echo.toList)) = endsWith marker echo := by
  unfold endsWith withoutReturn
  split
  · rename_i last
    obtain ⟨front, whole⟩ := List.getLast?_eq_some_iff.mp last
    rw [String.toList_ofList, whole, List.dropLast_concat,
      dropBlanksEnd_concat front (by decide)]
  · rw [String.toList_ofList]

end DirectiveHead

/-- Whether a text is empty or ends a line, so that what follows begins one. -/
def EndsLine (before : String) : Prop :=
  before = "" ∨ ∃ front, before = front ++ "\n"

/-- Whether a text is empty or begins by ending a line. -/
def BreaksLine (after : String) : Prop :=
  after = "" ∨ ∃ back, after = "\n" ++ back

theorem exists_lines_around_quoting (head : DirectiveHead) {before after : String}
    (ends : EndsLine before) (breaks : BreaksLine after) :
    ∃ (first rest : List String) (shown : String → String),
      (∀ echo marker, endsWith marker (shown echo) = endsWith marker echo) ∧
      ∀ echo : String, '\n' ∉ echo.toList →
        linesAtFeeds (before ++ head.quoting echo ++ after) =
          first ++ [head.quoting (shown echo)] ++ rest := by
  have starts : before.toList = [] ∨ ∃ front, before.toList = front ++ ['\n'] := by
    rcases ends with rfl | ⟨front, rfl⟩
    · exact Or.inl rfl
    · exact Or.inr ⟨front.toList, String.toList_append⟩
  have finishes : after.toList = [] ∨ ∃ back, after.toList = '\n' :: back := by
    rcases breaks with rfl | ⟨back, rfl⟩
    · exact Or.inl rfl
    · exact Or.inr ⟨back.toList, String.toList_append⟩
  obtain ⟨first, rest, shown, known, broken⟩ := exists_lines_around starts finishes
  have lines (echo : String) (oneLine : '\n' ∉ echo.toList) :
      linesAtFeeds (before ++ head.quoting echo ++ after) = first.map String.ofList ++
        [String.ofList (shown (head.quoting echo).toList)] ++ rest.map String.ofList := by
    have short : '\n' ∉ (head.quoting echo).toList := DirectiveHead.not_mem_quoting oneLine
    rw [linesAtFeeds, String.toList_append, String.toList_append, broken _ short, List.map_append,
      List.map_append, List.map_singleton]
  rcases known with rfl | rfl
  · refine ⟨first.map String.ofList, rest.map String.ofList, id, fun _echo _marker => rfl, ?_⟩
    intro echo oneLine
    rw [lines echo oneLine, id, String.ofList_toList, id]
  · refine ⟨first.map String.ofList, rest.map String.ofList,
      fun echo => String.ofList (withoutReturn echo.toList), ?_, ?_⟩
    · exact fun echo marker => DirectiveHead.endsWith_withoutReturn marker echo
    · intro echo oneLine
      rw [lines echo oneLine, DirectiveHead.quoting_withoutReturn]

/-! ### Quoted texts that make a difference -/

/-- A file with one line. -/
def singleLine : Target :=
  { path := "a", lineCount := 1 }

/-- A listing that quotes a text within the code segment of the file, and has an instruction for its
line behind that. -/
def DirectiveHead.probe (head : DirectiveHead) (echo : String) : String :=
  "; File a\n_TEXT SEGMENT" ++ "\n" ++ head.quoting echo ++ ("\n" ++ "; 1 :\n\tnop")

/-- The file is entered, and its code segment. -/
def State.opened : State :=
  { inTarget := true, inSegment := true, current := none, blocks := Table.empty }

namespace DirectiveHead

variable {head : DirectiveHead} {echo : String}

theorem run_probe (oneLine : '\n' ∉ echo.toList) :
    ∃ quoted, endsWith "ENDP" quoted = endsWith "ENDP" echo ∧
      blocksOf dialect singleLine (head.probe echo) =
        (run dialect singleLine State.opened 3 [head.quoting quoted, "; 1 :", "\tnop"]).map
          State.blocks := by
  refine ⟨String.ofList (withoutReturn echo.toList), endsWith_withoutReturn "ENDP" echo, ?_⟩
  have short : '\n' ∉ (head.quoting echo).toList := not_mem_quoting oneLine
  have front : linesAtFeeds (String.ofList (withoutReturn "; File a\n_TEXT SEGMENT".toList)) =
      ["; File a", "_TEXT SEGMENT"] := by
    decide +kernel
  have back : linesAtFeeds "; 1 :\n\tnop" = ["; 1 :", "\tnop"] := by decide +kernel
  have entered : run dialect singleLine State.initial 1 ["; File a", "_TEXT SEGMENT"] =
      .ok State.opened := by
    rfl
  have lines : linesAtFeeds (head.probe echo) = ["; File a", "_TEXT SEGMENT"] ++
      [head.quoting (String.ofList (withoutReturn echo.toList)), "; 1 :", "\tnop"] := by
    unfold probe
    rw [linesAtFeeds_around _ _ short, front, back, quoting_withoutReturn, List.append_assoc]
    rfl
  rw [blocksOf, lines, blocksOfLines, run_append, entered]
  rfl

/-- Where the quoted text closes the segment, nothing is collected. -/
theorem blocksOf_probe_of_closing (oneLine : '\n' ∉ echo.toList)
    (closing : endsWith "ENDP" echo = true) :
    blocksOf dialect singleLine (head.probe echo) = .ok Table.empty := by
  obtain ⟨quoted, same, outcome⟩ := head.run_probe oneLine
  have kind : dialect.classify (head.quoting quoted) = .segmentClose := by
    rw [classify_quoting, same, closing, if_pos rfl]
  have stepped : Stepped dialect singleLine (head.quoting quoted) State.opened
      { State.opened with inSegment := false, current := none } := .closeSegment kind rfl
  rw [outcome, run_cons, step_of_stepped stepped]
  rfl

/-- A line directive that is read changes nothing but the current line. -/
theorem step_quoting_opened {next : State} {position : Int} (other : endsWith "ENDP" echo = false)
    (read : step dialect singleLine State.opened position (head.quoting echo) = .ok next) :
    ∃ current, next = { State.opened with current } := by
  have directive : dialect.classify (head.quoting echo) = .lineDirective := by
    rw [classify_quoting, other, if_neg (by simp)]
  cases stepped_of_step read with
  | announce kind inside token found numeral short => exact ⟨_, rfl⟩
  | outside kind out => cases out
  | ignore kind inside => simp [directive] at kind
  | enter kind | leave kind | openSegment kind | closeSegment kind | unindent kind | collect kind
  | drop kind =>
      rw [directive] at kind
      cases kind

theorem run_behind_probe (current : Option Int) :
    run dialect singleLine { State.opened with current } 4 ["; 1 :", "\tnop"] =
      .ok { State.opened with
        current := some 1
        blocks := State.opened.blocks.append 1 "\tnop" } := by
  rfl

/-- Where it does not, the instruction behind it is collected, unless the directive fails. -/
theorem blocksOf_probe_of_not_closing (head : DirectiveHead) (oneLine : '\n' ∉ echo.toList)
    (other : endsWith "ENDP" echo = false) :
    blocksOf dialect singleLine (head.probe echo) ≠ .ok Table.empty := by
  obtain ⟨quoted, same, outcome⟩ := head.run_probe oneLine
  rw [outcome, run_cons]
  cases read : step dialect singleLine State.opened 3 (head.quoting quoted) with
  | error failure =>
      intro empty
      cases empty
  | ok next =>
      obtain ⟨current, rfl⟩ := step_quoting_opened (same.trans other) read
      change (run dialect singleLine _ 4 _).map _ ≠ _
      rw [run_behind_probe]
      intro empty
      have items := congrArg Table.items (Except.ok.inj empty)
      exact absurd items (by decide)

theorem closing_of_same_probe {other : String} (echoLine : '\n' ∉ echo.toList)
    (otherLine : '\n' ∉ other.toList)
    (same : (blocksOf dialect singleLine (head.probe other)).mapError Failure.unquoted =
      (blocksOf dialect singleLine (head.probe echo)).mapError Failure.unquoted)
    (closing : endsWith "ENDP" echo = true) : endsWith "ENDP" other = true := by
  rw [blocksOf_probe_of_closing echoLine closing] at same
  by_contra different
  rw [Bool.not_eq_true] at different
  have collected := blocksOf_probe_of_not_closing head otherLine different
  cases outcome : blocksOf dialect singleLine (head.probe other) with
  | error failure =>
      rw [outcome] at same
      cases same
  | ok blocks =>
      rw [outcome] at same collected
      exact collected (congrArg Except.ok (Except.ok.inj same))

end DirectiveHead

/-- Other texts may be quoted in place of one at a line directive exactly if they end like the end of
a procedure when it does: the same blocks come out, or a failure at the same line. -/
theorem blocksOf_same_outcome_iff (head : DirectiveHead) {echo other : String}
    (echoLine : '\n' ∉ echo.toList) (otherLine : '\n' ∉ other.toList) :
    (∀ (target : Target) (before after : String), EndsLine before → BreaksLine after →
      (blocksOf dialect target (before ++ head.quoting other ++ after)).mapError
          Failure.unquoted =
        (blocksOf dialect target (before ++ head.quoting echo ++ after)).mapError
          Failure.unquoted) ↔
      endsWith "ENDP" echo = endsWith "ENDP" other := by
  constructor
  · intro inert
    have probed : (blocksOf dialect singleLine (head.probe other)).mapError Failure.unquoted =
        (blocksOf dialect singleLine (head.probe echo)).mapError Failure.unquoted :=
      inert singleLine _ _ (Or.inr ⟨_, rfl⟩) (Or.inr ⟨_, rfl⟩)
    rw [Bool.eq_iff_iff]
    constructor
    · exact DirectiveHead.closing_of_same_probe echoLine otherLine probed
    · exact DirectiveHead.closing_of_same_probe otherLine echoLine probed.symm
  · intro same target before after ends breaks
    obtain ⟨first, rest, shown, ending, lines⟩ := exists_lines_around_quoting head ends breaks
    rw [blocksOf, blocksOf, lines other otherLine, lines echo echoLine]
    apply blocksOfLines_replace
    apply DirectiveHead.alike_quoting
    rw [ending, ending, same]

/-- The directive for the first line, with single blanks. -/
def DirectiveHead.firstLine : DirectiveHead where
  opening := [' ']
  first := '1'
  more := []
  closing := [' ']
  opening_ne_nil := by decide
  openingGap := by decide
  firstDigit := by decide
  moreWord := by decide
  closing_ne_nil := by decide
  closingGap := by decide

/-- A quoted line may speak of the start of a segment. -/
theorem blocksOf_same_outcome_segment_quoted :
    '\n' ∉ " return a;".toList ∧ '\n' ∉ " return b; // _TEXT SEGMENT".toList ∧
      ∀ (target : Target) (before after : String), EndsLine before → BreaksLine after →
        (blocksOf dialect target (before ++
            DirectiveHead.firstLine.quoting " return b; // _TEXT SEGMENT" ++ after)).mapError
            Failure.unquoted =
          (blocksOf dialect target (before ++
            DirectiveHead.firstLine.quoting " return a;" ++ after)).mapError
            Failure.unquoted := by
  have echoLine : '\n' ∉ " return a;".toList := by decide +kernel
  have otherLine : '\n' ∉ " return b; // _TEXT SEGMENT".toList := by decide +kernel
  refine ⟨echoLine, otherLine, ?_⟩
  exact (blocksOf_same_outcome_iff DirectiveHead.firstLine echoLine otherLine).mpr (by decide +kernel)

/-- A comment of the source that ends like the end of a procedure drops the instructions of its
line. -/
theorem blocksOf_procedure_end_quoted :
    let target : Target := { path := "a.c", lineCount := 1 }
    let before := "; File a.c\n_TEXT SEGMENT\n"
    let after := "\n\tnop"
    EndsLine before ∧ BreaksLine after ∧ '\n' ∉ " x".toList ∧ '\n' ∉ " x // ENDP".toList ∧
      (blocksOf dialect target
        (before ++ DirectiveHead.firstLine.quoting " x" ++ after)).toOption.map Table.items =
          some [(1, ["\tnop"])] ∧
      (blocksOf dialect target
        (before ++ DirectiveHead.firstLine.quoting " x // ENDP" ++ after)).toOption.map
          Table.items = some [] := by
  refine ⟨Or.inr ⟨"; File a.c\n_TEXT SEGMENT", ?_⟩, Or.inr ⟨"\tnop", ?_⟩, ?_, ?_, ?_, ?_⟩ <;>
    decide +kernel

end Msvc

end Listing

end ListingAtlas
