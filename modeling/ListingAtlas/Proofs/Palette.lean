import ListingAtlas.Proofs.Correlation.Ranges
import ListingAtlas.Proofs.Listing.Refusal
import ListingAtlas.Proofs.Outcome
import ListingAtlas.Proofs.Text.Trimming

/-!
Palettes that the environment sets. A list between commas is read by its pieces: each is blank, or an
item with blanks around it. Just the lists of colors are accepted, and else the first piece that is
no color is told. No blank is left in a color, and whatever is correlated finds one.
-/

namespace ListingAtlas

open Text

/-! ### Lists between commas -/

/-- A piece between commas is blank, or an item with blanks around it. -/
inductive PieceOf : List Char → List (List Char) → Prop
  | blank {piece : List Char} (blanks : ∀ character ∈ piece, isBlank character = true) :
      PieceOf piece []
  | item {before item after : List Char} (first : ∀ character ∈ before, isBlank character = true)
      (last : ∀ character ∈ after, isBlank character = true) :
      PieceOf (before ++ (item ++ after)) [item]

/-- A text lists items in pieces with commas between them. -/
inductive Lists : List Char → List (List Char) → Prop
  | last {piece : List Char} {items : List (List Char)} (here : PieceOf piece items) :
      Lists piece items
  | next {piece rest : List Char} {items others : List (List Char)} (here : PieceOf piece items)
      (behind : Lists rest others) : Lists (piece ++ ',' :: rest) (items ++ others)

/-- An item that a list can be read back by: not empty, no blanks at its ends, and no comma. -/
structure IsItem (item : List Char) : Prop where
  nonempty : item ≠ []
  trimmed : trimChars item = item
  whole : ',' ∉ item

section

variable {text piece : List Char} {items : List (List Char)}

theorem splitAt_eq_splitOn (separator : Char) (text : List Char) :
    splitAt separator text = text.splitOn separator := by
  induction text with
  | nil => rfl
  | cons character rest ih =>
      rw [splitAt, ih, List.splitOn_cons_eq_if_modifyHead]
      split
      · rfl
      · obtain ⟨piece, pieces, split⟩ :=
          List.exists_cons_of_ne_nil (List.splitOn_ne_nil separator rest)
        rw [split, List.modifyHead_cons]

theorem commaSeparated_eq (text : List Char) :
    commaSeparated text = ((text.splitOn ',').map trimChars).filter (· ≠ []) := by
  rw [commaSeparated, splitAt_eq_splitOn]
  apply List.filter_congr
  intro piece _member
  cases piece with
  | nil => rfl
  | cons character piece => rfl

theorem commaSeparated_append_comma (front rest : List Char) :
    commaSeparated (front ++ ',' :: rest) = commaSeparated front ++ commaSeparated rest := by
  rw [commaSeparated_eq, commaSeparated_eq, commaSeparated_eq, List.splitOn_append_cons_self,
    List.map_append, List.filter_append]

theorem commaSeparated_of_absent (absent : ',' ∉ piece) :
    commaSeparated piece = if trimChars piece = [] then [] else [trimChars piece] := by
  rw [commaSeparated_eq, List.splitOn_eq_singleton absent, List.map_singleton,
    List.filter_cons, List.filter_nil]
  split
  · rename_i kept
    rw [if_neg (of_decide_eq_true kept)]
  · rename_i blank
    rw [if_pos (by simpa using blank)]

theorem not_mem_of_blanks (blanks : ∀ character ∈ piece, isBlank character = true) :
    ',' ∉ piece := by
  intro member
  exact absurd (blanks ',' member) (by decide)

theorem PieceOf.commaSeparated_eq (here : PieceOf piece items) (each : ∀ item ∈ items, IsItem item) :
    ',' ∉ piece ∧ commaSeparated piece = items := by
  cases here with
  | blank blanks =>
      have absent := not_mem_of_blanks blanks
      have nothing : trimChars piece = [] := by
        rw [trimChars, dropBlanks_of_blanks blanks]
        rfl
      rw [commaSeparated_of_absent absent, if_pos nothing]
      exact ⟨absent, rfl⟩
  | @item before item after first last =>
      rw [List.forall_mem_singleton] at each
      have absent : ',' ∉ before ++ (item ++ after) := by
        rw [List.mem_append, List.mem_append, not_or, not_or]
        exact ⟨not_mem_of_blanks first, each.whole, not_mem_of_blanks last⟩
      rw [commaSeparated_of_absent absent, trimChars_padded first last, each.trimmed,
        if_neg each.nonempty]
      exact ⟨absent, rfl⟩

theorem pieceOf_commaSeparated (absent : ',' ∉ piece) :
    PieceOf piece (commaSeparated piece) ∧ ∀ item ∈ commaSeparated piece, IsItem item := by
  obtain ⟨before, after, first, last, whole⟩ := exists_padded piece
  rw [commaSeparated_of_absent absent]
  split
  · rename_i nothing
    refine ⟨.blank ?_, nofun⟩
    rw [whole, nothing, List.nil_append, List.forall_mem_append]
    exact ⟨first, last⟩
  · rename_i something
    have padded : PieceOf (before ++ (trimChars piece ++ after)) [trimChars piece] :=
      .item first last
    rw [← whole] at padded
    refine ⟨padded, List.forall_mem_singleton.mpr ⟨something, trimChars_trimChars piece, ?_⟩⟩
    intro member
    apply absent
    rw [whole]
    exact List.mem_append_right before (List.mem_append_left after member)

/-- What is read of a text, up to its first comma and behind it, is what it lists. -/
theorem lists_commaSeparated (text : List Char) :
    Lists text (commaSeparated text) ∧ ∀ item ∈ commaSeparated text, IsItem item := by
  by_cases comma : ',' ∈ text
  · obtain ⟨piece, rest, whole, absent⟩ := List.eq_append_cons_of_mem comma
    have shorter : rest.length < text.length := by
      rw [whole, List.length_append, List.length_cons]
      omega
    obtain ⟨here, each⟩ := pieceOf_commaSeparated absent
    obtain ⟨behind, others⟩ := lists_commaSeparated rest
    rw [whole, commaSeparated_append_comma]
    exact ⟨.next here behind, List.forall_mem_append.mpr ⟨each, others⟩⟩
  · obtain ⟨here, each⟩ := pieceOf_commaSeparated comma
    exact ⟨.last here, each⟩
termination_by text.length

theorem Lists.commaSeparated_eq (lists : Lists text items) (each : ∀ item ∈ items, IsItem item) :
    commaSeparated text = items := by
  induction lists with
  | last here => exact (here.commaSeparated_eq each).2
  | next here _behind ih =>
      rw [List.forall_mem_append] at each
      rw [commaSeparated_append_comma, (here.commaSeparated_eq each.1).2, ih each.2]

end

/-! ### Blanks around a list -/

section

variable {text piece before after : List Char} {items : List (List Char)}

theorem PieceOf.padded (here : PieceOf piece items)
    (first : ∀ character ∈ before, isBlank character = true)
    (last : ∀ character ∈ after, isBlank character = true) :
    PieceOf (before ++ (piece ++ after)) items := by
  cases here with
  | blank blanks =>
      apply PieceOf.blank
      rw [List.forall_mem_append, List.forall_mem_append]
      exact ⟨first, blanks, last⟩
  | @item ahead item behind ahead_blank behind_blank =>
      have parts : before ++ (ahead ++ (item ++ behind) ++ after) =
          (before ++ ahead) ++ (item ++ (behind ++ after)) := by
        simp only [List.append_assoc]
      rw [parts]
      exact .item (List.forall_mem_append.mpr ⟨first, ahead_blank⟩)
        (List.forall_mem_append.mpr ⟨behind_blank, last⟩)

theorem Lists.front (lists : Lists text items)
    (first : ∀ character ∈ before, isBlank character = true) : Lists (before ++ text) items := by
  cases lists with
  | last here =>
      have padded := here.padded first (List.forall_mem_nil _)
      rw [List.append_nil] at padded
      exact .last padded
  | next here behind =>
      have padded := here.padded first (List.forall_mem_nil _)
      rw [List.append_nil] at padded
      rw [← List.append_assoc]
      exact .next padded behind

theorem Lists.back (lists : Lists text items)
    (last : ∀ character ∈ after, isBlank character = true) : Lists (text ++ after) items := by
  induction lists with
  | last here => exact .last (here.padded (List.forall_mem_nil _) last)
  | next here _behind ih =>
      rw [List.append_assoc, List.cons_append]
      exact .next here ih

theorem commaSeparated_trimChars (text : List Char) :
    commaSeparated (trimChars text) = commaSeparated text := by
  obtain ⟨before, after, first, last, whole⟩ := exists_padded text
  obtain ⟨lists, each⟩ := lists_commaSeparated (trimChars text)
  have padded := (lists.back last).front first
  rw [← whole] at padded
  exact (padded.commaSeparated_eq each).symm

end

/-! ### Colors -/

def hexDigits : List Char := "0123456789abcdefABCDEF".toList

/-- A number sign, and three or six hexadecimal digits behind it. -/
def IsColor (text : List Char) : Prop :=
  ∃ digits, text = '#' :: digits ∧ (digits.length = 3 ∨ digits.length = 6) ∧
    ∀ digit ∈ digits, digit ∈ hexDigits

section

variable {color item : List Char}

theorem isHexDigit_iff (character : Char) :
    isHexDigit character = true ↔ character ∈ hexDigits := by
  constructor
  · intro digit
    have within {ranges : Ranges} (range : Nat × Nat) (member : range ∈ ranges)
        (least : range.1 ≤ character.toNat) (most : character.toNat ≤ range.2) :
        ranges.contains character = true := by
      apply List.any_eq_true.mpr ⟨range, member, _⟩
      rw [decide_eq_true least, decide_eq_true most, Bool.and_self]
    have contained :
        Ranges.contains [(0x30, 0x39), (0x61, 0x66), (0x41, 0x46)] character = true := by
      simp only [isHexDigit, Char.isDigit, Bool.or_eq_true, Bool.and_eq_true, decide_eq_true_eq]
        at digit
      rcases digit with (⟨least, most⟩ | ⟨least, most⟩) | ⟨least, most⟩
      · exact within (0x30, 0x39) (by decide) least most
      · exact within (0x61, 0x66) (by decide) least most
      · exact within (0x41, 0x46) (by decide) least most
    have listed := Ranges.forall_of_points (fun character => decide (character ∈ hexDigits))
      (by decide +kernel) contained
    exact of_decide_eq_true listed
  · intro listed
    have all : hexDigits.all isHexDigit = true := by decide
    exact List.all_eq_true.mp all character listed

theorem isColor_iff : isColor color = true ↔ IsColor color := by
  cases color with
  | nil => exact ⟨nofun, fun ⟨_digits, whole, _rest⟩ => nomatch whole⟩
  | cons first digits =>
      by_cases sign : first = '#'
      · subst sign
        simp only [isColor, Bool.and_eq_true, Bool.or_eq_true, beq_iff_eq, List.all_eq_true,
          isHexDigit_iff]
        constructor
        · intro both
          exact ⟨digits, rfl, both⟩
        · rintro ⟨others, whole, both⟩
          rw [(List.cons.inj whole).2]
          exact both
      · have refused : isColor (first :: digits) = false := by
          rw [isColor]
          exact fun others same => sign (List.cons.inj same).1
        rw [refused]
        constructor
        · exact nofun
        · rintro ⟨others, whole, _both⟩
          exact absurd (List.cons.inj whole).1 sign

theorem IsColor.plain (colored : IsColor color) :
    ∀ character ∈ color, isBlank character = false ∧ character ≠ ',' := by
  obtain ⟨digits, rfl, _length, listed⟩ := colored
  have all : hexDigits.all (fun digit => !isBlank digit && digit != ',') = true := by decide
  rw [List.forall_mem_cons]
  refine ⟨by decide, fun digit member => ?_⟩
  simpa using List.all_eq_true.mp all digit (listed digit member)

theorem IsColor.isItem (colored : IsColor color) : IsItem color := by
  have plain := colored.plain
  obtain ⟨digits, whole, _length, _listed⟩ := colored
  refine ⟨?_, trimChars_of_no_blank fun character member => (plain character member).1, ?_⟩
  · rw [whole]
    exact List.cons_ne_nil '#' digits
  · intro comma
    exact (plain ',' comma).2 rfl

/-- A line feed at the end would pass, but an item has no blank there. -/
theorem IsItem.passesForColor_iff (isItem : IsItem item) :
    passesForColor item = true ↔ IsColor item := by
  have noFeed : item.getLast? ≠ some '\n' := by
    intro feed
    rw [← isItem.trimmed] at feed
    exact absurd (not_isBlank_of_getLast? feed) (by decide)
  rw [passesForColor, Bool.or_eq_true, Bool.and_eq_true, beq_iff_eq, isColor_iff]
  constructor
  · intro passes
    exact passes.resolve_right fun both => noFeed both.1
  · exact Or.inl

end

/-! ### Palettes -/

section

variable {items : List (List Char)}

theorem find?_passesForColor_eq_none_iff (each : ∀ item ∈ items, IsItem item) :
    (items.find? fun item => !passesForColor item) = none ↔ ∀ item ∈ items, IsColor item := by
  rw [List.find?_eq_none]
  apply forall₂_congr
  intro item member
  rw [← (each item member).passesForColor_iff, Bool.not_eq_true', Bool.not_eq_false]

/-- The piece that is told is no color, and comes before all others that are none. -/
theorem find?_passesForColor_eq_some_iff (each : ∀ item ∈ items, IsItem item) (item : List Char) :
    (items.find? fun item => !passesForColor item) = some item ↔
      ∃ front rest, items = front ++ item :: rest ∧ (∀ piece ∈ front, IsColor piece) ∧
        ¬ IsColor item := by
  rw [List.find?_eq_some_iff_append]
  constructor
  · rintro ⟨refused, front, rest, whole, passed⟩
    rw [whole, List.forall_mem_append, List.forall_mem_cons] at each
    refine ⟨front, rest, whole, ?_, ?_⟩
    · intro piece member
      rw [← (each.1 piece member).passesForColor_iff]
      simpa using passed piece member
    · rw [← each.2.1.passesForColor_iff]
      simpa using refused
  · rintro ⟨front, rest, whole, colors, refused⟩
    rw [whole, List.forall_mem_append, List.forall_mem_cons] at each
    refine ⟨?_, front, rest, whole, ?_⟩
    · rw [← each.2.1.passesForColor_iff] at refused
      simpa using refused
    · intro piece member
      have passed := (each.1 piece member).passesForColor_iff.mpr (colors piece member)
      rw [passed]
      rfl

end

/-- The text that a palette is set by; no text sets none. -/
def paletteText (environment : Environment) : List Char :=
  (environment.palette.getD "").toList

section

variable {environment : Environment}

theorem loadPalette_of_blank (blank : trimChars (paletteText environment) = []) :
    loadPalette environment = .ok defaultPalette := by
  rw [paletteText] at blank
  unfold loadPalette
  simp only [blank, List.isEmpty_nil, if_true]

theorem loadPalette_of_written (written : trimChars (paletteText environment) ≠ []) :
    loadPalette environment =
      match (commaSeparated (paletteText environment)).find? fun item => !passesForColor item with
      | some item => .error (.invalidColor (String.ofList item))
      | none =>
          if (commaSeparated (paletteText environment)).isEmpty then .error .noColors
          else .ok ((commaSeparated (paletteText environment)).map String.ofList) := by
  rw [← commaSeparated_trimChars]
  exact if_neg (mt List.isEmpty_iff.mp written)

theorem loadPalette_eq_ok_iff (written : trimChars (paletteText environment) ≠ [])
    (palette : Palette) :
    loadPalette environment = .ok palette ↔
      commaSeparated (paletteText environment) ≠ [] ∧
        (∀ item ∈ commaSeparated (paletteText environment), IsColor item) ∧
        palette = (commaSeparated (paletteText environment)).map String.ofList := by
  have each := (lists_commaSeparated (paletteText environment)).2
  rw [loadPalette_of_written written, ← find?_passesForColor_eq_none_iff each]
  split
  · rename_i item found
    rw [found]
    exact ⟨nofun, fun all => nomatch all.2.1⟩
  · rename_i none
    rw [none]
    split
    · rename_i nothing
      exact ⟨nofun, fun all => absurd (List.isEmpty_iff.mp nothing) all.1⟩
    · rename_i something
      rw [Except.ok.injEq, eq_comm]
      exact ⟨fun same => ⟨mt List.isEmpty_iff.mpr something, rfl, same⟩, fun all => all.2.2⟩

theorem loadPalette_eq_error_iff (written : trimChars (paletteText environment) ≠ [])
    (failure : Failure) :
    loadPalette environment = .error failure ↔
      (∃ front item rest, commaSeparated (paletteText environment) = front ++ item :: rest ∧
        (∀ piece ∈ front, IsColor piece) ∧ ¬ IsColor item ∧
        failure = .invalidColor (String.ofList item)) ∨
      commaSeparated (paletteText environment) = [] ∧ failure = .noColors := by
  have each := (lists_commaSeparated (paletteText environment)).2
  have refused := find?_passesForColor_eq_some_iff each
  rw [loadPalette_of_written written]
  constructor
  · intro failed
    split at failed
    · rename_i item found
      obtain ⟨front, rest, whole, colors, other⟩ := (refused item).mp found
      exact Or.inl ⟨front, item, rest, whole, colors, other, (Except.error.inj failed).symm⟩
    · split at failed
      · rename_i nothing
        exact Or.inr ⟨List.isEmpty_iff.mp nothing, (Except.error.inj failed).symm⟩
      · cases failed
  · rintro (⟨front, item, rest, whole, colors, other, rfl⟩ | ⟨nothing, rfl⟩)
    · rw [(refused item).mpr ⟨front, rest, whole, colors, other⟩]
    · rw [nothing]
      rfl

/-- A palette that is set by a list of colors is this list. -/
theorem loadPalette_of_lists {colors : List (List Char)}
    (lists : Lists (paletteText environment) colors) (some : colors ≠ [])
    (valid : ∀ color ∈ colors, IsColor color) :
    loadPalette environment = .ok (colors.map String.ofList) := by
  have read := lists.commaSeparated_eq fun color member => (valid color member).isItem
  have written : trimChars (paletteText environment) ≠ [] := by
    intro blank
    rw [← commaSeparated_trimChars, blank] at read
    exact some read.symm
  rw [loadPalette_eq_ok_iff written, read]
  exact ⟨some, valid, rfl⟩

theorem isColor_of_loadPalette {palette : Palette} (loaded : loadPalette environment = .ok palette) :
    palette ≠ [] ∧ ∀ color ∈ palette, IsColor color.toList := by
  by_cases blank : trimChars (paletteText environment) = []
  · rw [loadPalette_of_blank blank, Except.ok.injEq] at loaded
    rw [← loaded]
    refine ⟨by decide, fun color member => ?_⟩
    have all : ∀ color ∈ defaultPalette, isColor color.toList = true := by decide
    exact isColor_iff.mp (all color member)
  · obtain ⟨some, valid, rfl⟩ := (loadPalette_eq_ok_iff blank palette).mp loaded
    refine ⟨fun nothing => some (List.map_eq_nil_iff.mp nothing), fun color member => ?_⟩
    obtain ⟨item, listed, rfl⟩ := List.mem_map.mp member
    rw [String.toList_ofList]
    exact valid item listed

end

theorem infix_message_invalidColor (piece : List Char) :
    piece <:+: (Failure.invalidColor (String.ofList piece)).message.toList := by
  have inside (front behind last : String) :
      piece <:+: (front ++ String.ofList piece ++ behind ++ last).toList := by
    refine ⟨front.toList, behind.toList ++ last.toList, ?_⟩
    simp only [String.toList_append, String.toList_ofList, List.append_assoc]
  exact inside _ _ _

/-! ### Correlating with a palette -/

/-- What decides the separator: one that is given, or else the environment. -/
def separatorOf (environment : Environment) (given : Option String) : Except Failure String :=
  match given with
  | some separator => .ok separator
  | none => loadLineSeparator environment

theorem separatorOf_ne_emptyPalette (environment : Environment) (given : Option String) :
    separatorOf environment given ≠ .error .emptyPalette := by
  intro failed
  cases given with
  | some separator => cases failed
  | none =>
      rw [separatorOf, loadLineSeparator] at failed
      split at failed
      · cases failed
      · cases failed

theorem blocksOf_ne_emptyPalette (dialect : Listing.Dialect) (target : Listing.Target)
    (listing : String) : Listing.blocksOf dialect target listing ≠ .error .emptyPalette := by
  intro failed
  let source : Listing.Source :=
    { dialect, target, lines := Text.linesAtFeeds listing }
  obtain ⟨position, refused, _reached⟩ :=
    (Listing.blocksOfLines_eq_error_iff source .emptyPalette).mp failed
  obtain ⟨_inTarget, _kind, line, token, _atLine, _found, told⟩ := refused
  rcases told with ⟨_malformed, other⟩ | ⟨_numeral, _long, other⟩
  · cases other
  · cases other

/-- With colors to show, correlating does not lack one. -/
theorem correlate_ne_emptyPalette {presentation : Presentation}
    (colors : presentation.palette ≠ []) (separated : presentation.separator ≠ .error .emptyPalette)
    (dialect : Listing.Dialect) (listing target source name : String) :
    correlate dialect presentation listing target source name ≠ .error .emptyPalette := by
  intro failed
  have chain := failed
  unfold correlate at chain
  rcases bind_eq_error_iff.mp chain with unread | ⟨blocks, attributed, rest⟩
  · exact blocksOf_ne_emptyPalette dialect _ listing unread
  · rcases bind_eq_error_iff.mp rest with unseparated | ⟨separator, found, _rest⟩
    · exact separated unseparated
    · obtain ⟨entries, assembled, _presents⟩ := exists_assemble colors separator
        (sourceLines source) fun _line member => (Listing.keys_within attributed member).1
      rw [correlate_of_assemble name found attributed assembled] at failed
      cases failed

/-- A palette is read as the list between commas that its text is: blank text leaves the default
one, a list of one color or more is taken as it is, and else the first piece that is no color is
told, or that there is none. So colors written with any blanks and empty pieces around them are read
back, no color that is read holds a blank, and correlating with them never lacks a color. -/
theorem loadPalette_accepts_palettes (environment : Environment) :
    (trimChars (paletteText environment) = [] →
        loadPalette environment = .ok defaultPalette) ∧
      (trimChars (paletteText environment) ≠ [] →
        let pieces := (((paletteText environment).splitOn ',').map trimChars).filter (· ≠ [])
        (∀ palette, loadPalette environment = .ok palette ↔
          pieces ≠ [] ∧ (∀ piece ∈ pieces, IsColor piece) ∧
            palette = pieces.map String.ofList) ∧
        ∀ failure, loadPalette environment = .error failure ↔
          (∃ front piece rest, pieces = front ++ piece :: rest ∧
            (∀ color ∈ front, IsColor color) ∧ ¬ IsColor piece ∧
            failure = .invalidColor (String.ofList piece) ∧
            piece <:+: failure.message.toList) ∨
          pieces = [] ∧ failure = .noColors) ∧
      (∀ colors, Lists (paletteText environment) colors → colors ≠ [] →
        (∀ color ∈ colors, IsColor color) →
        loadPalette environment = .ok (colors.map String.ofList)) ∧
      ∀ palette, loadPalette environment = .ok palette →
        (∀ color ∈ palette, ∀ character ∈ color.toList, isBlank character = false) ∧
        ∀ dialect given listing target source name,
          correlate dialect { palette, separator := separatorOf environment given } listing target
            source name ≠ .error .emptyPalette := by
  refine ⟨loadPalette_of_blank, ?_, ?_, ?_⟩
  · intro written pieces
    have read : commaSeparated (paletteText environment) = pieces := commaSeparated_eq _
    rw [← read]
    refine ⟨loadPalette_eq_ok_iff written, fun failure => ?_⟩
    rw [loadPalette_eq_error_iff written]
    apply or_congr_left
    constructor
    · rintro ⟨front, piece, rest, whole, colors, other, rfl⟩
      exact ⟨front, piece, rest, whole, colors, other, rfl, infix_message_invalidColor piece⟩
    · rintro ⟨front, piece, rest, whole, colors, other, told, _named⟩
      exact ⟨front, piece, rest, whole, colors, other, told⟩
  · exact fun colors lists some valid => loadPalette_of_lists lists some valid
  · intro palette loaded
    obtain ⟨some, valid⟩ := isColor_of_loadPalette loaded
    constructor
    · intro color member character among
      exact ((valid color member).plain character among).1
    · intro dialect given listing target source name
      exact correlate_ne_emptyPalette some (separatorOf_ne_emptyPalette environment given) dialect
        listing target source name

/-- Two colors, with blanks of several kinds and empty pieces around them. -/
theorem loadPalette_accepts_palettes_padded :
    let environment : Environment := { palette := some " #FFF,\u3000,,#aB12c9\t,\n" }
    Lists (paletteText environment) ["#FFF".toList, "#aB12c9".toList] ∧
      loadPalette environment = .ok ["#FFF", "#aB12c9"] := by
  intro environment
  have read : commaSeparated (paletteText environment) = ["#FFF".toList, "#aB12c9".toList] := by
    decide
  have lists := (lists_commaSeparated (paletteText environment)).1
  rw [read] at lists
  have valid : ∀ color ∈ ["#FFF".toList, "#aB12c9".toList], isColor color = true := by decide
  obtain ⟨_blank, _written, readBack, _colors⟩ := loadPalette_accepts_palettes environment
  exact ⟨lists, readBack _ lists (by decide) fun color member => isColor_iff.mp (valid color member)⟩

end ListingAtlas
