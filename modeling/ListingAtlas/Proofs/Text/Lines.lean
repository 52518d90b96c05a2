import Mathlib.Data.List.Basic
import ListingAtlas.Text.LineBreak

/-!
Lines of texts that are put together. A line feed ends the line in front of it, to which a carriage
return at its end does not belong; so what stands between two feeds is a line of its own, whatever
stands around them. Whether a carriage return breaks a line matters just where no feed follows it.
-/

namespace ListingAtlas.Text

/-! ### Putting lines together -/

theorem extendFirst_ne_nil (character : Char) (lines : List (List Char)) :
    extendFirst character lines ≠ [] := by
  cases lines <;> simp [extendFirst]

theorem extendFirst_append {lines : List (List Char)} (nonempty : lines ≠ []) (character : Char)
    (more : List (List Char)) :
    extendFirst character (lines ++ more) = extendFirst character lines ++ more := by
  cases lines with
  | nil => exact absurd rfl nonempty
  | cons line lines => rfl

theorem length_extendFirst {lines : List (List Char)} (nonempty : lines ≠ []) (character : Char) :
    (extendFirst character lines).length = lines.length := by
  cases lines with
  | nil => exact absurd rfl nonempty
  | cons line lines => rfl

theorem length_le_of_extendFirst {lines : List (List Char)} {bound : Nat}
    (short : ∀ line ∈ lines, line.length ≤ bound) (character : Char) :
    ∀ line ∈ extendFirst character lines, line.length ≤ bound + 1 := by
  intro line member
  cases lines with
  | nil =>
      rw [extendFirst, List.mem_singleton] at member
      simp [member]
  | cons first lines =>
      rw [extendFirst, List.mem_cons] at member
      rcases member with rfl | later
      · exact Nat.succ_le_succ (short first List.mem_cons_self)
      · exact Nat.le_succ_of_le (short line (List.mem_cons_of_mem _ later))

theorem breakLines_return {returnBreaks : Bool} {rest : List Char}
    (alone : ∀ more, rest ≠ '\n' :: more) :
    breakLines returnBreaks ('\r' :: rest) =
      if returnBreaks then [] :: breakLines returnBreaks rest
      else extendFirst '\r' (breakLines returnBreaks rest) :=
  breakLines.eq_4 returnBreaks rest alone

theorem breakLines_other {returnBreaks : Bool} {character : Char} (notFeed : character ≠ '\n')
    (notReturn : character ≠ '\r') (rest : List Char) :
    breakLines returnBreaks (character :: rest) =
      extendFirst character (breakLines returnBreaks rest) :=
  breakLines.eq_5 returnBreaks character rest (fun _more same _rest => notReturn same) notFeed
    notReturn

theorem breakLines_ne_nil (returnBreaks : Bool) (text : List Char) :
    breakLines returnBreaks text ≠ [] := by
  fun_induction breakLines returnBreaks text with
  | case1 => simp
  | case2 rest ih => simp
  | case3 rest ih => simp
  | case4 rest alone breaks ih => simp
  | case5 rest alone stays ih => exact extendFirst_ne_nil _ _
  | case6 character rest notBreak notFeed notReturn ih => exact extendFirst_ne_nil _ _

/-- No line is longer than the text. -/
theorem length_le_of_breakLines (returnBreaks : Bool) (text : List Char) :
    ∀ line ∈ breakLines returnBreaks text, line.length ≤ text.length := by
  have behindBreak {lines : List (List Char)} {bound : Nat}
      (short : ∀ line ∈ lines, line.length ≤ bound) :
      ∀ line ∈ [] :: lines, line.length ≤ bound + 1 := by
    intro line member
    rcases List.mem_cons.mp member with rfl | later
    · exact Nat.zero_le _
    · exact Nat.le_succ_of_le (short line later)
  fun_induction breakLines returnBreaks text with
  | case1 => simp
  | case2 rest ih => exact fun line member => Nat.le_succ_of_le (behindBreak ih line member)
  | case3 rest ih => exact behindBreak ih
  | case4 rest alone breaks ih => exact behindBreak ih
  | case5 rest alone stays ih => exact length_le_of_extendFirst ih _
  | case6 character rest notBreak notFeed notReturn ih => exact length_le_of_extendFirst ih _

/-- A text without line feeds is one line, if returns break none. -/
theorem breakLines_of_not_mem {line : List Char} (oneLine : '\n' ∉ line) :
    breakLines false line = [line] := by
  induction line with
  | nil => rfl
  | cons character rest ih =>
      rw [List.mem_cons, not_or] at oneLine
      have after := ih oneLine.2
      by_cases isReturn : character = '\r'
      · rw [isReturn, breakLines_return, after]
        · rfl
        · intro more same
          rw [same] at oneLine
          exact oneLine.2 List.mem_cons_self
      · rw [breakLines_other (Ne.symm oneLine.1) isReturn, after]
        rfl

theorem breakLines_of_no_break {line : List Char} (noFeed : '\n' ∉ line) (noReturn : '\r' ∉ line)
    (returnBreaks : Bool) : breakLines returnBreaks line = [line] := by
  induction line with
  | nil => rfl
  | cons character rest ih =>
      rw [List.mem_cons, not_or] at noFeed noReturn
      rw [breakLines_other (Ne.symm noFeed.1) (Ne.symm noReturn.1), ih noFeed.2 noReturn.2]
      rfl

/-! ### A line feed between two texts -/

/-- A line without the return that belongs to its break. -/
def withoutReturn (line : List Char) : List Char :=
  if line.getLast? = some '\r' then line.dropLast else line

theorem withoutReturn_of_not_mem {line : List Char} (noReturn : '\r' ∉ line) :
    withoutReturn line = line := by
  rw [withoutReturn, if_neg]
  intro last
  exact noReturn (List.mem_of_getLast? last)

theorem withoutReturn_cons (character : Char) {rest : List Char} (nonempty : rest ≠ []) :
    withoutReturn (character :: rest) = character :: withoutReturn rest := by
  unfold withoutReturn
  rw [List.getLast?_cons_of_ne_nil nonempty]
  split
  · exact List.dropLast_cons_of_ne_nil nonempty
  · rfl

theorem withoutReturn_append (front : List Char) {stop : Char} (notReturn : stop ≠ '\r')
    (rest : List Char) :
    withoutReturn (front ++ stop :: rest) = front ++ stop :: withoutReturn rest := by
  induction front with
  | nil =>
      cases rest with
      | nil => simp [withoutReturn, notReturn]
      | cons next rest => exact withoutReturn_cons stop (by simp)
  | cons character front ih =>
      rw [List.cons_append, withoutReturn_cons _ (by simp), ih, List.cons_append]

theorem isPrefix_withoutReturn (line : List Char) : withoutReturn line <+: line := by
  unfold withoutReturn
  split
  · exact List.dropLast_prefix line
  · exact List.prefix_refl line

theorem withoutReturn_alone {line : List Char} (alone : ∀ more, line ≠ '\n' :: more)
    (more : List Char) : withoutReturn line ≠ '\n' :: more := by
  intro same
  obtain ⟨rest, whole⟩ := isPrefix_withoutReturn line
  rw [same] at whole
  exact alone (more ++ rest) whole.symm

/-- A return that no feed follows is a character like others, or a break like others. -/
theorem breakLines_feed_return {returnBreaks : Bool} {front : List Char}
    (alone : ∀ more, front ≠ '\n' :: more) (rest : List Char)
    (behind : breakLines returnBreaks (front ++ '\n' :: rest) =
      breakLines returnBreaks (withoutReturn front) ++ breakLines returnBreaks rest) :
    breakLines returnBreaks ('\r' :: front ++ '\n' :: rest) =
      breakLines returnBreaks (withoutReturn ('\r' :: front)) ++ breakLines returnBreaks rest := by
  cases front with
  | nil => rfl
  | cons next front =>
      have still : ∀ more, next :: front ++ '\n' :: rest ≠ '\n' :: more := by
        intro more same
        rw [List.cons_append, List.cons.injEq] at same
        exact alone front (by rw [same.1])
      rw [List.cons_append, breakLines_return still, withoutReturn_cons _ (by simp),
        breakLines_return (withoutReturn_alone alone), behind]
      split
      · rfl
      · rw [extendFirst_append (breakLines_ne_nil _ _)]

/-- What a line feed ends is broken into lines for itself. -/
theorem breakLines_feed (returnBreaks : Bool) (front rest : List Char) :
    breakLines returnBreaks (front ++ '\n' :: rest) =
      breakLines returnBreaks (withoutReturn front) ++ breakLines returnBreaks rest := by
  fun_induction breakLines returnBreaks front with
  | case1 => rfl
  | case2 front ih =>
      cases front with
      | nil => rfl
      | cons next front =>
          rw [withoutReturn_cons _ (by simp), withoutReturn_cons _ (by simp)]
          exact congrArg ([] :: ·) ih
  | case3 front ih =>
      cases front with
      | nil => rfl
      | cons next front =>
          rw [withoutReturn_cons _ (by simp)]
          exact congrArg ([] :: ·) ih
  | case4 front alone breaks ih => exact breakLines_feed_return alone rest ih
  | case5 front alone stays ih => exact breakLines_feed_return alone rest ih
  | case6 character front notBreak notFeed notReturn ih =>
      have other (behind : List Char) : breakLines returnBreaks (character :: behind) =
          extendFirst character (breakLines returnBreaks behind) :=
        breakLines_other notFeed notReturn behind
      have kept : withoutReturn (character :: front) = character :: withoutReturn front :=
        withoutReturn_append [] notReturn front
      rw [List.cons_append, other, ih, kept, other, extendFirst_append (breakLines_ne_nil _ _)]

/-- What stands at the start of a line and goes to the end of a line is a line. -/
theorem exists_lines_around {before after : List Char}
    (starts : before = [] ∨ ∃ front, before = front ++ ['\n'])
    (ends : after = [] ∨ ∃ back, after = '\n' :: back) :
    ∃ (first rest : List (List Char)) (shown : List Char → List Char),
      (shown = id ∨ shown = withoutReturn) ∧ ∀ line, '\n' ∉ line →
        breakLines false (before ++ line ++ after) = first ++ [shown line] ++ rest := by
  have behind : ∃ (rest : List (List Char)) (shown : List Char → List Char),
      (shown = id ∨ shown = withoutReturn) ∧ ∀ line, '\n' ∉ line →
        breakLines false (line ++ after) = [shown line] ++ rest := by
    rcases ends with rfl | ⟨back, rfl⟩
    · refine ⟨[], id, Or.inl rfl, fun line oneLine => ?_⟩
      rw [List.append_nil, breakLines_of_not_mem oneLine]
      rfl
    · refine ⟨breakLines false back, withoutReturn, Or.inr rfl, fun line oneLine => ?_⟩
      have short : '\n' ∉ withoutReturn line := fun member =>
        oneLine ((isPrefix_withoutReturn line).subset member)
      rw [breakLines_feed, breakLines_of_not_mem short]
  obtain ⟨rest, shown, known, broken⟩ := behind
  rcases starts with rfl | ⟨front, rfl⟩
  · exact ⟨[], rest, shown, known, fun line oneLine => broken line oneLine⟩
  · refine ⟨breakLines false (withoutReturn front), rest, shown, known, fun line oneLine => ?_⟩
    rw [List.append_assoc, List.append_assoc, List.singleton_append, breakLines_feed,
      broken line oneLine, List.append_assoc]

theorem linesAtFeeds_around (front back : String) {line : String}
    (oneLine : '\n' ∉ line.toList) :
    linesAtFeeds (front ++ "\n" ++ line ++ ("\n" ++ back)) =
      linesAtFeeds (String.ofList (withoutReturn front.toList)) ++
        [String.ofList (withoutReturn line.toList)] ++ linesAtFeeds back := by
  have short : '\n' ∉ withoutReturn line.toList := fun member =>
    oneLine ((isPrefix_withoutReturn _).subset member)
  have feed : "\n".toList = ['\n'] := rfl
  simp only [linesAtFeeds, String.toList_append, String.toList_ofList, feed, List.append_assoc,
    List.cons_append, List.nil_append]
  rw [breakLines_feed, breakLines_feed, breakLines_of_not_mem short, List.map_append,
    List.map_append, List.map_singleton]
  rfl

/-! ### Lines joined by breaks of either kind -/

/-- A return behind a line belongs to the break, and any before it to the line. -/
theorem withoutReturn_append_return (line : List Char) : withoutReturn (line ++ ['\r']) = line := by
  rw [withoutReturn, if_pos (by simp), List.dropLast_concat]

/-- A break ends with a line feed, which a carriage return may precede. -/
def breakText (withReturn : Bool) : String :=
  if withReturn then "\r\n" else "\n"

/-- Lines with a break between each two of them; of each break it is told whether it has a return. -/
def joined : (Nat → Bool) → List String → String
  | _, [] => ""
  | _, [line] => line
  | withReturn, line :: next :: lines =>
      line ++ breakText (withReturn 0) ++
        joined (fun index => withReturn (index + 1)) (next :: lines)

/-- Breaks that are all alike are a separator. -/
theorem joined_alike (withReturn : Bool) (lines : List String) :
    joined (fun _index => withReturn) lines = (breakText withReturn).intercalate lines := by
  induction lines with
  | nil => rfl
  | cons line lines ih =>
      cases lines with
      | nil => simp [joined]
      | cons next lines => rw [joined, ih, String.intercalate_cons_cons]

/-- A line is found again in front of a break, if no return at its end may be taken for a part of
the break. -/
theorem linesAtFeeds_break {line : String} {withReturn : Bool} (plain : '\n' ∉ line.toList)
    (kept : withReturn = false → line.toList.getLast? ≠ some '\r') (rest : String) :
    linesAtFeeds (line ++ breakText withReturn ++ rest) = line :: linesAtFeeds rest := by
  have whole : (line ++ breakText withReturn ++ rest).toList =
      (line.toList ++ if withReturn then ['\r'] else []) ++ '\n' :: rest.toList := by
    cases withReturn <;> simp [breakText]
  have shown : withoutReturn (line.toList ++ if withReturn then ['\r'] else []) = line.toList := by
    cases withReturn with
    | true => exact withoutReturn_append_return line.toList
    | false =>
        rw [if_neg (by simp), List.append_nil, withoutReturn, if_neg (kept rfl)]
  rw [linesAtFeeds, whole, breakLines_feed, shown, breakLines_of_not_mem plain,
    List.singleton_append, List.map_cons, String.ofList_toList]
  rfl

/-- Joined lines are found again, whatever breaks are between them, unless a feed alone stands behind
a return. -/
theorem linesAtFeeds_joined {withReturn : Nat → Bool} {lines : List String} (nonempty : lines ≠ [])
    (plain : ∀ line ∈ lines, '\n' ∉ line.toList)
    (kept : ∀ index line, withReturn index = false → lines[index]? = some line →
      line.toList.getLast? ≠ some '\r') :
    linesAtFeeds (joined withReturn lines) = lines := by
  induction lines generalizing withReturn with
  | nil => exact absurd rfl nonempty
  | cons line lines ih =>
      rw [List.forall_mem_cons] at plain
      cases lines with
      | nil =>
          rw [joined, linesAtFeeds, breakLines_of_not_mem plain.1, List.map_singleton,
            String.ofList_toList]
      | cons next lines =>
          rw [joined, linesAtFeeds_break plain.1 fun none => kept 0 line none rfl,
            ih (List.cons_ne_nil _ _) plain.2]
          exact fun index other none found => kept (index + 1) other none found

theorem intercalate_concat_nil {parts : List (List Char)} (nonempty : parts ≠ [])
    (separator : List Char) :
    separator.intercalate (parts ++ [[]]) = separator.intercalate parts ++ separator := by
  induction parts with
  | nil => exact absurd rfl nonempty
  | cons part parts ih =>
      cases parts with
      | nil => simp
      | cons next parts =>
          rw [List.cons_append, List.cons_append, List.intercalate_cons_cons,
            List.intercalate_cons_cons, ← List.cons_append, ih (List.cons_ne_nil _ _)]
          simp only [List.append_assoc]

/-! ### Returns that break lines -/

/-- The carriage returns that no line feed follows. -/
def loneReturns : List Char → Nat
  | [] => 0
  | '\r' :: '\n' :: rest => loneReturns rest
  | '\r' :: rest => loneReturns rest + 1
  | _ :: rest => loneReturns rest

/-- A line feed follows every carriage return. -/
def ReturnsPaired (text : List Char) : Prop :=
  ∀ before after, text = before ++ '\r' :: after → ∃ rest, after = '\n' :: rest

theorem returnsPaired_cons {character : Char} {rest : List Char} (notReturn : character ≠ '\r') :
    ReturnsPaired (character :: rest) ↔ ReturnsPaired rest := by
  constructor
  · intro paired before after same
    exact paired (character :: before) after (by rw [same]; rfl)
  · intro paired before after same
    cases before with
    | nil =>
        rw [List.nil_append, List.cons.injEq] at same
        exact absurd same.1 notReturn
    | cons first before =>
        rw [List.cons_append, List.cons.injEq] at same
        exact paired before after same.2

theorem returnsPaired_return_feed {rest : List Char} :
    ReturnsPaired ('\r' :: '\n' :: rest) ↔ ReturnsPaired rest := by
  constructor
  · intro paired before after same
    exact paired ('\r' :: '\n' :: before) after (by rw [same]; rfl)
  · intro paired before after same
    cases before with
    | nil =>
        rw [List.nil_append, List.cons.injEq] at same
        exact ⟨rest, same.2.symm⟩
    | cons first before =>
        rw [List.cons_append, List.cons.injEq] at same
        exact (returnsPaired_cons (by decide)).mpr paired before after same.2

theorem loneReturns_eq_zero_iff (text : List Char) :
    loneReturns text = 0 ↔ ReturnsPaired text := by
  fun_induction loneReturns text with
  | case1 =>
      refine ⟨fun _none before after same => ?_, fun _paired => rfl⟩
      exact absurd same (by simp)
  | case2 rest ih => rw [ih, returnsPaired_return_feed]
  | case3 rest alone ih =>
      constructor
      · intro none
        cases none
      · intro paired
        obtain ⟨more, same⟩ := paired [] rest rfl
        exact absurd same (alone more)
  | case4 character rest notBreak notReturn ih => rw [ih, returnsPaired_cons notReturn]

theorem ReturnsPaired.append {text more : List Char} (paired : ReturnsPaired text)
    (without : '\r' ∉ more) : ReturnsPaired (text ++ more) := by
  intro before after same
  rcases List.append_eq_append_iff.mp same with ⟨middle, _start, rest⟩ | ⟨middle, start, rest⟩
  · exact absurd (rest ▸ by simp) without
  · cases middle with
    | nil =>
        rw [List.nil_append] at rest
        exact absurd (rest ▸ List.mem_cons_self) without
    | cons first middle =>
        rw [List.cons_append, List.cons.injEq] at rest
        obtain ⟨line, back⟩ := paired before middle (by rw [start, rest.1])
        exact ⟨line ++ more, by rw [rest.2, back]; rfl⟩

/-- A return is still alone when anything but a line feed is put behind the text. -/
theorem ReturnsPaired.of_append {text more : List Char} {next : Char}
    (paired : ReturnsPaired (text ++ next :: more)) (notFeed : next ≠ '\n') :
    ReturnsPaired text := by
  intro before after same
  have whole : text ++ next :: more = before ++ '\r' :: (after ++ next :: more) := by
    rw [same, List.append_assoc]
    rfl
  obtain ⟨rest, behind⟩ := paired before (after ++ next :: more) whole
  cases after with
  | nil =>
      rw [List.nil_append, List.cons.injEq] at behind
      exact absurd behind.1 notFeed
  | cons first after =>
      rw [List.cons_append, List.cons.injEq] at behind
      exact ⟨after, by rw [behind.1]⟩

/-- Where every break is one line feed, it makes no difference whether returns break lines. -/
theorem breakLines_unifyBreaks (returnBreaks : Bool) (text : List Char) :
    breakLines returnBreaks (unifyBreaks text) = breakLines true text := by
  fun_induction unifyBreaks text with
  | case1 => rfl
  | case2 rest ih => exact congrArg ([] :: ·) ih
  | case3 rest alone ih =>
      rw [breakLines_return alone]
      exact congrArg ([] :: ·) ih
  | case4 character rest notBreak notReturn ih =>
      by_cases feed : character = '\n'
      · rw [feed]
        exact congrArg ([] :: ·) ih
      · rw [breakLines_other feed notReturn, breakLines_other feed notReturn, ih]

/-- What lies between the breaks of a text is what lies between feeds once each break is one. -/
theorem breakLines_eq_splitOn (text : List Char) :
    breakLines true text = (unifyBreaks text).splitOn '\n' := by
  fun_induction unifyBreaks text with
  | case1 => rfl
  | case2 rest ih =>
      rw [List.splitOn_cons_eq_if_modifyHead, if_pos (by decide), ← ih]
      rfl
  | case3 rest alone ih =>
      rw [breakLines_return alone, List.splitOn_cons_eq_if_modifyHead, if_pos (by decide), ← ih]
      rfl
  | case4 character rest notBreak notReturn ih =>
      rw [List.splitOn_cons_eq_if_modifyHead, ← ih]
      by_cases feed : character = '\n'
      · rw [feed]
        rfl
      · rw [breakLines_other feed notReturn, if_neg (by simpa using feed)]
        cases broken : breakLines true rest with
        | nil => exact absurd broken (breakLines_ne_nil true rest)
        | cons line lines => rfl

/-- A character that breaks lines is in none of them. -/
theorem not_mem_of_breakLines {returnBreaks : Bool} {stop : Char}
    (breaks : stop = '\n' ∨ stop = '\r' ∧ returnBreaks = true) (text : List Char) :
    ∀ line ∈ breakLines returnBreaks text, stop ∉ line := by
  have behindBreak {lines : List (List Char)} (plain : ∀ line ∈ lines, stop ∉ line) :
      ∀ line ∈ [] :: lines, stop ∉ line :=
    List.forall_mem_cons.mpr ⟨by simp, plain⟩
  have extended {lines : List (List Char)} (plain : ∀ line ∈ lines, stop ∉ line)
      {character : Char} (other : stop ≠ character) :
      ∀ line ∈ extendFirst character lines, stop ∉ line := by
    cases lines with
    | nil => simpa [extendFirst] using other
    | cons line lines =>
        rw [List.forall_mem_cons] at plain
        refine List.forall_mem_cons.mpr ⟨?_, plain.2⟩
        rw [List.mem_cons, not_or]
        exact ⟨other, plain.1⟩
  fun_induction breakLines returnBreaks text with
  | case1 => simp
  | case2 rest ih => exact behindBreak ih
  | case3 rest ih => exact behindBreak ih
  | case4 rest alone isBreak ih => exact behindBreak ih
  | case5 rest alone stays ih =>
      refine extended ih ?_
      rintro rfl
      rcases breaks with feed | ⟨_return, returns⟩
      · exact absurd feed (by decide)
      · exact stays returns
  | case6 character rest notBreak notFeed notReturn ih =>
      refine extended ih ?_
      rintro rfl
      rcases breaks with feed | ⟨isReturn, _returns⟩
      · exact notFeed feed
      · exact notReturn isReturn

/-- Each return that stands alone makes one line more. -/
theorem length_breakLines_true (text : List Char) :
    (breakLines true text).length = (breakLines false text).length + loneReturns text := by
  fun_induction loneReturns text with
  | case1 => rfl
  | case2 rest ih =>
      change (breakLines true rest).length + 1 = (breakLines false rest).length + 1 + _
      omega
  | case3 rest alone ih =>
      rw [breakLines_return alone, breakLines_return alone, if_pos rfl, if_neg (by simp),
        List.length_cons, length_extendFirst (breakLines_ne_nil _ _)]
      omega
  | case4 character rest notBreak notReturn ih =>
      by_cases feed : character = '\n'
      · rw [feed]
        change (breakLines true rest).length + 1 = (breakLines false rest).length + 1 + _
        omega
      · rw [breakLines_other feed notReturn, breakLines_other feed notReturn,
          length_extendFirst (breakLines_ne_nil _ _), length_extendFirst (breakLines_ne_nil _ _), ih]

theorem breakLines_eq_of_loneReturns {text : List Char} (none : loneReturns text = 0) :
    breakLines true text = breakLines false text := by
  fun_induction loneReturns text with
  | case1 => rfl
  | case2 rest ih => exact congrArg ([] :: ·) (ih none)
  | case3 rest alone ih => cases none
  | case4 character rest notBreak notReturn ih =>
      by_cases feed : character = '\n'
      · rw [feed]
        exact congrArg ([] :: ·) (ih none)
      · rw [breakLines_other feed notReturn, breakLines_other feed notReturn, ih none]

end ListingAtlas.Text
