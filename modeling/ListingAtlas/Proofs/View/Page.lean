import ListingAtlas.Proofs.Correlation.Digits
import ListingAtlas.Proofs.Text.MadeOf
import ListingAtlas.Proofs.View.Markup

/-!
The page read back. Its tags are those of its frame and six for each row, whatever the texts are; the
rows of its table are numbered from one, and the text in them is the annotated listing, line by line.
-/

namespace ListingAtlas.View

open Html (Classes Row)
open Markup (Closed Piece TableRow)

/-! ### Texts that need no escaping -/

/-- Marks that have a meaning in markup. -/
def marks : List Char := ['<', '>', '"', '\'', ' ']

/-- A text can stand in a value of a tag, and in text between tags. -/
def Plain (text : String) : Prop :=
  MadeOf (· ∉ marks) text

theorem Plain.not_mem {text : String} (plain : Plain text) {mark : Char} (special : mark ∈ marks) :
    mark ∉ text.toList :=
  fun member => plain mark member special

theorem not_mark_of_digit (character : Char) (digit : character.isDigit = true) :
    character ∉ marks := by
  intro special
  simp only [marks, List.mem_cons, List.not_mem_nil, or_false] at special
  rcases special with rfl | rfl | rfl | rfl | rfl <;> cases digit

theorem plain_toString (number : Nat) : Plain (toString number) :=
  madeOf_toString not_mark_of_digit number

theorem plain_toString_int (number : Int) : Plain (toString number) :=
  madeOf_toString_int not_mark_of_digit (by decide) number

/-! ### Style classes -/

/-- The colors are among some, and each has a numbered class. -/
def Numbered (colors : List String) (classes : Classes) : Prop :=
  ∀ item ∈ classes.items, item.1 ∈ colors ∧ ∃ number : Nat, item.2 = "bgc-" ++ toString number

section

variable {colors : List String} {classes : Classes}

theorem Numbered.add (numbered : Numbered colors classes) {color : String}
    (known : color ∈ colors) : Numbered colors (classes.add color) := by
  unfold Html.Classes.add
  split
  · exact numbered
  · rename_i unknown
    have new : color ∉ classes.keys := by
      rw [← Table.get?_isSome_iff]
      exact unknown
    intro item member
    rw [Table.items_insert_of_not_mem new, List.mem_append, List.mem_singleton] at member
    rcases member with old | rfl
    · exact numbered item old
    · exact ⟨known, _, rfl⟩

theorem Numbered.foldl (numbered : Numbered colors classes) {entries : List Entry}
    (known : ∀ entry ∈ entries, entry.displayColor ∈ colors) :
    Numbered colors
      (entries.foldl (fun classes entry => classes.add entry.displayColor) classes) := by
  induction entries generalizing classes with
  | nil => exact numbered
  | cons entry entries ih =>
      rw [List.forall_mem_cons] at known
      exact ih (numbered.add known.1) known.2

theorem numbered_classesOf (entries : List Entry) :
    Numbered (entries.map Entry.displayColor) (Html.classesOf entries) := by
  have none : Numbered (entries.map Entry.displayColor) Table.empty := nofun
  exact none.foldl fun entry member => List.mem_map_of_mem member

theorem plain_numbered (number : Nat) : Plain ("bgc-" ++ toString number) := by
  have letters : Plain "bgc-" := by
    unfold Plain
    decide
  exact letters.append (plain_toString number)

/-- A class that is found is a numbered one, so what each of these is made of, it is made of. -/
theorem Numbered.madeOf_get? {kind : Char → Prop} (numbered : Numbered colors classes)
    (styled : ∀ number : Nat, MadeOf kind ("bgc-" ++ toString number)) (color : String) :
    MadeOf kind ((classes.get? color).getD "") := by
  cases found : classes.get? color with
  | none => exact nofun
  | some styleClass =>
      obtain ⟨_known, number, same⟩ := numbered _ ((Table.get?_eq_some_iff _ _ _).mp found)
      rw [Option.getD_some, show styleClass = "bgc-" ++ toString number from same]
      exact styled number

theorem Numbered.plain (numbered : Numbered colors classes) (color : String) :
    Plain ((classes.get? color).getD "") :=
  numbered.madeOf_get? plain_numbered color

/-- Style rules are made of what their frame, their classes and the escaped colors are made of. -/
theorem Numbered.madeOf_styleRules {kind : Char → Prop} (numbered : Numbered colors classes)
    (framed : ∀ text ∈ [".", " \x7b background: ", "; \x7d", "\n"], MadeOf kind text)
    (styled : ∀ number : Nat, MadeOf kind ("bgc-" ++ toString number))
    (colored : ∀ color ∈ colors, MadeOf kind (Html.escape color)) :
    MadeOf kind (Html.styleRules classes) := by
  simp only [List.forall_mem_cons] at framed
  obtain ⟨dot, opening, closing, feed, -⟩ := framed
  refine feed.intercalate fun line member => ?_
  obtain ⟨item, among, rfl⟩ := List.mem_map.mp member
  obtain ⟨known, number, same⟩ := numbered item among
  rw [same]
  exact (((dot.append (styled number)).append opening).append (colored item.1 known)).append closing

end

/-! ### Pieces of a page -/

/-- From the start of a page into its title. -/
def openingPieces : List Piece :=
  [⟨[], "!DOCTYPE html".toList⟩,
   ⟨['\n'], "html".toList⟩,
   ⟨['\n'], "head".toList⟩,
   ⟨['\n'], "meta charset=\"utf-8\"".toList⟩,
   ⟨['\n'], "title".toList⟩]

/-- From the end of the style rules into the table. -/
def tablePieces : List Piece :=
  [⟨['\n'], "/head".toList⟩, ⟨['\n'], "body".toList⟩, ⟨['\n'], "table".toList⟩]

def headPieces (title rules : String) : List Piece :=
  openingPieces ++
    [⟨"Assembly Explorer: ".toList ++ title.toList, "/title".toList⟩,
     ⟨['\n'], "style".toList⟩,
     ⟨'\n' :: (Html.styleSheet.toList ++ (rules.toList ++ ['\n'])), "/style".toList⟩] ++ tablePieces

def footPieces : List Piece :=
  [⟨['\n'], "/table".toList⟩, ⟨['\n'], "/body".toList⟩, ⟨['\n'], "/html".toList⟩]

def rowTag (styleClass sourceLine : String) : List Char :=
  "tr class=".toList ++ ('"' :: styleClass.toList ++ ['"']) ++ " data-line=".toList ++
    ('"' :: sourceLine.toList ++ ['"'])

def rowPieces (number : Nat) (row : Row) : List Piece :=
  [⟨['\n'], rowTag row.styleClass (toString row.sourceLine)⟩,
   ⟨[], "td class=\"lineno\"".toList⟩,
   ⟨(toString number).toList, "/td".toList⟩,
   ⟨[], "td".toList⟩,
   ⟨(Html.escape row.text).toList, "/td".toList⟩,
   ⟨[], "/tr".toList⟩]

/-- The pieces of rows one below the other, the first of them with a number. -/
def rowsPieces : Nat → List Row → List Piece
  | _, [] => []
  | number, row :: rows => rowPieces number row ++ rowsPieces (number + 1) rows

/-! ### Writing the pieces -/

theorem write_openingPieces :
    openingPieces.flatMap Piece.write ++ "Assembly Explorer: ".toList =
      "<!DOCTYPE html>\n<html>\n<head>\n<meta charset=\"utf-8\">\n".toList ++
        "<title>Assembly Explorer: ".toList := by
  decide +kernel

theorem write_styleTag :
    '<' :: "/title".toList ++ '>' :: '\n' :: '<' :: "style".toList ++ ['>', '\n'] =
      "</title>\n<style>\n".toList := by
  decide +kernel

theorem write_tablePieces :
    '\n' :: '<' :: "/style".toList ++ '>' :: tablePieces.flatMap Piece.write ++ ['\n'] =
      "\n</style>\n</head>\n<body>\n".toList ++ "<table>\n".toList := by
  decide +kernel

theorem write_footPieces :
    footPieces.flatMap Piece.write ++ ['\n'] =
      "\n</table>".toList ++ "\n</body>\n</html>\n".toList := by
  decide +kernel

/-- A head of a page is written in the same way around any texts and tags; where these are literals,
their characters are not to be gone through. -/
theorem write_framed (opening table : List Piece)
    (announced title titled styled sheet rules unstyled : List Char) :
    (opening ++ [(⟨announced ++ title, titled⟩ : Piece), ⟨['\n'], styled⟩,
        ⟨'\n' :: (sheet ++ (rules ++ ['\n'])), unstyled⟩] ++ table).flatMap Piece.write ++ ['\n'] =
      opening.flatMap Piece.write ++ announced ++ title ++
        ('<' :: titled ++ '>' :: '\n' :: '<' :: styled ++ ['>', '\n']) ++ sheet ++ rules ++
        ('\n' :: '<' :: unstyled ++ '>' :: table.flatMap Piece.write ++ ['\n']) := by
  simp only [List.flatMap_append, List.flatMap_cons, Piece.write, List.append_assoc,
    List.cons_append, List.nil_append]

theorem write_headPieces (title rules : String) :
    (headPieces title rules).flatMap Piece.write ++ ['\n'] =
      "<!DOCTYPE html>\n<html>\n<head>\n<meta charset=\"utf-8\">\n".toList ++
        "<title>Assembly Explorer: ".toList ++ title.toList ++ "</title>\n<style>\n".toList ++
        Html.styleSheet.toList ++ rules.toList ++
        ("\n</style>\n</head>\n<body>\n".toList ++ "<table>\n".toList) := by
  rw [← write_openingPieces, ← write_styleTag, ← write_tablePieces]
  exact write_framed _ _ _ _ _ _ _ _ _

theorem write_rowPieces (number : Nat) (row : Row) :
    (rowPieces number row).flatMap Piece.write = '\n' :: (Html.rowMarkup number row).toList := by
  unfold rowPieces Html.rowMarkup
  simp only [List.flatMap_cons, List.flatMap_nil, Piece.write]
  unfold rowTag
  simp

theorem write_rowsPieces (number : Nat) (rows : List Row) :
    (rowsPieces number rows).flatMap Piece.write =
      (Html.rowsMarkup number rows).flatMap fun markup => '\n' :: markup.toList := by
  induction rows generalizing number with
  | nil => rfl
  | cons row rows ih =>
      rw [rowsPieces, Html.rowsMarkup, List.flatMap_append, write_rowPieces, ih, List.flatMap_cons]

/-- Lines behind a break each, and breaks between lines. -/
theorem cons_intercalate {lines : List String} (nonempty : lines ≠ []) :
    '\n' :: ("\n".intercalate lines).toList = lines.flatMap fun line => '\n' :: line.toList := by
  induction lines with
  | nil => exact absurd rfl nonempty
  | cons line lines ih =>
      cases lines with
      | nil => simp
      | cons next lines =>
          rw [List.flatMap_cons, ← ih (by simp), String.toList_intercalate,
            String.toList_intercalate]
          simp

theorem page_toList (title rules body : String) :
    (Html.page title rules body).toList =
      "<!DOCTYPE html>\n<html>\n<head>\n<meta charset=\"utf-8\">\n".toList ++
        "<title>Assembly Explorer: ".toList ++ title.toList ++ "</title>\n<style>\n".toList ++
        Html.styleSheet.toList ++ rules.toList ++ "\n</style>\n</head>\n<body>\n".toList ++
        body.toList ++ "\n</body>\n</html>\n".toList := by
  unfold Html.page
  simp only [String.toList_append]

theorem write_page (title rules : String) {rows : List Row} (nonempty : rows ≠ []) :
    (Html.page title rules
        ("<table>\n" ++ "\n".intercalate (Html.rowsMarkup 1 rows) ++ "\n</table>")).toList =
      (headPieces title rules ++ rowsPieces 1 rows ++ footPieces).flatMap Piece.write ++ ['\n'] := by
  have some : Html.rowsMarkup 1 rows ≠ [] := by
    cases rows with
    | nil => exact absurd rfl nonempty
    | cons row rows => exact List.cons_ne_nil _ _
  rw [List.flatMap_append, List.flatMap_append, write_rowsPieces, ← cons_intercalate some,
    List.append_assoc _ _ ['\n'], write_footPieces, List.append_cons, write_headPieces, page_toList,
    String.toList_append, String.toList_append]
  generalize ("\n".intercalate (Html.rowsMarkup 1 rows)).toList = table
  simp only [List.append_assoc]

/-! ### Pieces that a scanner finds -/

theorem Numbered.noBracket_styleRules {colors : List String} {classes : Classes}
    (numbered : Numbered colors classes) : '<' ∉ (Html.styleRules classes).toList := by
  have rules : MadeOf (· ≠ '<') (Html.styleRules classes) := by
    refine numbered.madeOf_styleRules (by decide) (fun number => ?_) (fun color _known => ?_)
    · rintro character inClass rfl
      exact (plain_numbered number).not_mem List.mem_cons_self inClass
    · rintro character inColor rfl
      exact Markup.not_mem_escape (by decide) color inColor
  exact fun member => rules '<' member rfl

theorem noBracket_styleSheet : '<' ∉ Html.styleSheet.toList := by
  have literal {characters : List Char} (plain : (characters.all fun c => c != '<') = true) :
      MadeOf (· ≠ '<') (String.ofList characters) :=
    madeOf_ofList fun character member => by simpa using List.all_eq_true.mp plain character member
  have sheet : MadeOf (· ≠ '<') Html.styleSheet :=
    (((((literal rfl).append (literal rfl)).append (literal rfl)).append (literal rfl)).append
      (literal rfl)).append (literal rfl)
  exact fun member => sheet '<' member rfl

theorem fits_openingPieces : ∀ piece ∈ openingPieces, piece.Fits := by
  have encoded : Closed "meta charset=\"utf-8\"".toList :=
    Markup.closed_attribute "meta charset=".toList "utf-8".toList rfl (by decide)
  simp only [openingPieces, List.forall_mem_cons]
  exact ⟨Piece.fits_word (by decide) rfl, Piece.fits_word (by decide) rfl,
    Piece.fits_word (by decide) rfl, ⟨by decide, encoded⟩, Piece.fits_word (by decide) rfl, nofun⟩

theorem fits_tablePieces : ∀ piece ∈ tablePieces, piece.Fits := by
  simp only [tablePieces, List.forall_mem_cons]
  exact ⟨Piece.fits_word (by decide) rfl, Piece.fits_word (by decide) rfl,
    Piece.fits_word (by decide) rfl, nofun⟩

theorem fits_footPieces : ∀ piece ∈ footPieces, piece.Fits := by
  simp only [footPieces, List.forall_mem_cons]
  exact ⟨Piece.fits_word (by decide) rfl, Piece.fits_word (by decide) rfl,
    Piece.fits_word (by decide) rfl, nofun⟩

theorem fits_headPieces {title rules : String} (noTitle : '<' ∉ title.toList)
    (noRules : '<' ∉ rules.toList) : ∀ piece ∈ headPieces title rules, piece.Fits := by
  have announced : '<' ∉ "Assembly Explorer: ".toList ++ title.toList := by
    rw [List.mem_append, not_or]
    exact ⟨by decide, noTitle⟩
  have sheet : '<' ∉ '\n' :: (Html.styleSheet.toList ++ (rules.toList ++ ['\n'])) := by
    rw [List.mem_cons, List.mem_append, List.mem_append, not_or, not_or, not_or]
    exact ⟨by decide, noBracket_styleSheet, noRules, by decide⟩
  simp only [headPieces, List.forall_mem_append, List.forall_mem_cons]
  exact ⟨⟨fits_openingPieces, Piece.fits_word announced rfl, Piece.fits_word (by decide) rfl,
    Piece.fits_word sheet rfl, nofun⟩, fits_tablePieces⟩

theorem closed_rowTag {styleClass sourceLine : String} (plain : Plain styleClass)
    (line : '"' ∉ sourceLine.toList) : Closed (rowTag styleClass sourceLine) := by
  have classed := Markup.closed_attribute "tr class=".toList styleClass.toList rfl
    (plain.not_mem (by decide))
  have lined := Markup.closed_attribute " data-line=".toList sourceLine.toList rfl line
  have parts : rowTag styleClass sourceLine =
      ("tr class=".toList ++ ('"' :: styleClass.toList ++ ['"'])) ++
        (" data-line=".toList ++ ('"' :: sourceLine.toList ++ ['"'])) := by
    unfold rowTag
    rw [List.append_assoc]
  rw [parts]
  exact classed.append lined

theorem fits_rowPieces {row : Row} (plain : Plain row.styleClass) (number : Nat) :
    ∀ piece ∈ rowPieces number row, piece.Fits := by
  have celled : Closed "td class=\"lineno\"".toList :=
    Markup.closed_attribute "td class=".toList "lineno".toList rfl (by decide)
  have opened : Closed (rowTag row.styleClass (toString row.sourceLine)) :=
    closed_rowTag plain ((plain_toString_int _).not_mem (by decide))
  simp only [rowPieces, List.forall_mem_cons]
  exact ⟨⟨by simp, opened⟩, ⟨by simp, celled⟩,
    Piece.fits_word ((plain_toString number).not_mem (by decide)) rfl, Piece.fits_word (by simp) rfl,
    Piece.fits_word (Markup.not_mem_escape (by decide) row.text) rfl,
    Piece.fits_word (by simp) rfl, nofun⟩

theorem fits_rowsPieces {rows : List Row} (plain : ∀ row ∈ rows, Plain row.styleClass)
    (number : Nat) : ∀ piece ∈ rowsPieces number rows, piece.Fits := by
  induction rows generalizing number with
  | nil => simp [rowsPieces]
  | cons row rows ih =>
      rw [List.forall_mem_cons] at plain
      rw [rowsPieces, List.forall_mem_append]
      exact ⟨fits_rowPieces plain.1 number, ih plain.2 (number + 1)⟩

/-! ### Rows that a scanner finds -/

/-- A tag that says nothing of rows and cells. -/
def Apart (tag : List Char) : Prop :=
  tag.takeWhile (· != ' ') ∉ ["tr".toList, "/td".toList, "/tr".toList]

theorem rowsFrom_apart {pieces : List Piece} (apart : ∀ tag ∈ pieces.map Piece.tag, Apart tag)
    (rest : List Piece) : Markup.rowsFrom (pieces ++ rest) = Markup.rowsFrom rest := by
  induction pieces with
  | nil => rfl
  | cons piece pieces ih =>
      rw [List.map_cons, List.forall_mem_cons] at apart
      obtain ⟨here, further⟩ := apart
      simp only [Apart, List.mem_cons, List.not_mem_nil, or_false, not_or] at here
      rw [List.cons_append, Markup.rowsFrom, ih further]
      simp only [Piece.name, here.1, here.2.1, here.2.2, if_false]

/-- The tags of a page before its first row. -/
def headTags : List (List Char) :=
  ["!DOCTYPE html".toList, "html".toList, "head".toList, "meta charset=\"utf-8\"".toList,
    "title".toList, "/title".toList, "style".toList, "/style".toList, "/head".toList,
    "body".toList, "table".toList]

/-- The tags of a page behind its last row. -/
def footTags : List (List Char) :=
  ["/table".toList, "/body".toList, "/html".toList]

/-- The tags of a row, which its texts do not change. -/
def rowTags (styleClass sourceLine : String) : List (List Char) :=
  [rowTag styleClass sourceLine, "td class=\"lineno\"".toList, "/td".toList, "td".toList,
    "/td".toList, "/tr".toList]

theorem tags_headPieces (title rules : String) :
    (headPieces title rules).map Piece.tag = headTags := rfl

theorem tags_rowsPieces (number : Nat) (rows : List Row) :
    (rowsPieces number rows).map Piece.tag =
      rows.flatMap fun row => rowTags row.styleClass (toString row.sourceLine) := by
  induction rows generalizing number with
  | nil => rfl
  | cons row rows ih =>
      rw [rowsPieces, List.map_append, ih, List.flatMap_cons]
      rfl

theorem apart_headTags : ∀ tag ∈ headTags, Apart tag := by
  unfold Apart
  decide +kernel

theorem apart_footTags : ∀ tag ∈ footTags, Apart tag := by
  unfold Apart
  decide +kernel

theorem rowsFrom_rowPieces (number : Nat) (row : Row) (rest : List Piece) :
    Markup.rowsFrom (rowPieces number row ++ rest) =
      ([], ⟨rowTag row.styleClass (toString row.sourceLine),
          [(toString number).toList, (Html.escape row.text).toList]⟩ ::
        (Markup.rowsFrom rest).2) := by
  rfl

/-- What the table shows of its rows, the first of them with a number. -/
def writtenRows : Nat → List Row → List TableRow
  | _, [] => []
  | number, row :: rows =>
      ⟨rowTag row.styleClass (toString row.sourceLine),
        [(toString number).toList, (Html.escape row.text).toList]⟩ :: writtenRows (number + 1) rows

theorem rowsFrom_rowsPieces (number : Nat) (rows : List Row) (rest : List Piece) :
    (Markup.rowsFrom (rowsPieces number rows ++ rest)).2 =
      writtenRows number rows ++ (Markup.rowsFrom rest).2 := by
  induction rows generalizing number with
  | nil => rfl
  | cons row rows ih =>
      rw [rowsPieces, List.append_assoc, rowsFrom_rowPieces, ih, writtenRows, List.cons_append]

/-! ### What a reader takes from a row -/

structure ShownRow where
  styleClass : String
  sourceLine : String
  number : String
  text : String
deriving DecidableEq, Repr

/-- A row of a page has a class, the line it stands for, and a cell each for its number and text. -/
def shownRow? (row : TableRow) : Option ShownRow :=
  match row.cells, Markup.attribute? "class".toList row.tag,
      Markup.attribute? "data-line".toList row.tag with
  | [number, text], some styleClass, some sourceLine =>
      some
        { styleClass := String.ofList styleClass
          sourceLine := String.ofList sourceLine
          number := String.ofList (Markup.unescape number)
          text := String.ofList (Markup.unescape text) }
  | _, _, _ => none

def shownRows? (markup : String) : Option (List ShownRow) :=
  (Markup.tableRows markup).mapM shownRow?

theorem class_rowTag {styleClass : String} (plain : Plain styleClass) (sourceLine : String) :
    Markup.attribute? "class".toList (rowTag styleClass sourceLine) = some styleClass.toList := by
  have parts : rowTag styleClass sourceLine =
      ['t', 'r'] ++ ((' ' :: "class".toList ++ ['=', '"']) ++ (styleClass.toList ++ '"' ::
        (" data-line=".toList ++ '"' :: (sourceLine.toList ++ ['"'])))) := by
    unfold rowTag
    simp
  rw [parts, Markup.attribute?_of_front (by decide),
    Markup.attribute?_here (plain.not_mem (by decide))]

theorem line_rowTag {styleClass sourceLine : String} (plain : Plain styleClass)
    (line : '"' ∉ sourceLine.toList) :
    Markup.attribute? "data-line".toList (rowTag styleClass sourceLine) =
      some sourceLine.toList := by
  have parts : rowTag styleClass sourceLine =
      ['t', 'r'] ++ (' ' :: 'c' :: (("lass=\"".toList ++ styleClass.toList ++ ['"']) ++
        ((' ' :: "data-line".toList ++ ['=', '"']) ++ (sourceLine.toList ++ '"' :: [])))) := by
    unfold rowTag
    simp
  have before : ' ' ∉ "lass=\"".toList ++ styleClass.toList ++ ['"'] := by
    rw [List.mem_append, List.mem_append, not_or, not_or]
    exact ⟨⟨by decide, plain.not_mem (by decide)⟩, by decide⟩
  have classed (rest : List Char) : Markup.attribute? "data-line".toList (' ' :: 'c' :: rest) =
      Markup.attribute? "data-line".toList rest := rfl
  rw [parts, Markup.attribute?_of_front (by decide), classed,
    Markup.attribute?_of_front before, Markup.attribute?_here line]

def shownAs (number : Nat) (row : Row) : ShownRow :=
  { styleClass := row.styleClass
    sourceLine := toString row.sourceLine
    number := toString number
    text := row.text }

/-- What a page shows of its rows, the first of them with a number. -/
def shownFrom : Nat → List Row → List ShownRow
  | _, [] => []
  | number, row :: rows => shownAs number row :: shownFrom (number + 1) rows

theorem unescape_of_not_mem {characters : List Char} (plain : '&' ∉ characters) :
    Markup.unescape characters = characters := by
  induction characters with
  | nil => rfl
  | cons character rest ih =>
      rw [List.mem_cons, not_or] at plain
      rw [Markup.unescape_other (Ne.symm plain.1), ih plain.2]

theorem shown_writtenRows {rows : List Row} (plain : ∀ row ∈ rows, Plain row.styleClass)
    (number : Nat) : (writtenRows number rows).mapM shownRow? = some (shownFrom number rows) := by
  induction rows generalizing number with
  | nil => rfl
  | cons row rows ih =>
      rw [List.forall_mem_cons] at plain
      have noQuote : '"' ∉ (toString row.sourceLine).toList :=
        (plain_toString_int row.sourceLine).not_mem (by decide)
      have line := line_rowTag plain.1 noQuote
      have numbered : Markup.unescape (toString number).toList = (toString number).toList := by
        refine unescape_of_not_mem fun member => ?_
        exact absurd (isDigit_of_mem_toString member) (by decide)
      have here : shownRow? ⟨rowTag row.styleClass (toString row.sourceLine),
          [(toString number).toList, (Html.escape row.text).toList]⟩ =
            some (shownAs number row) := by
        simp only [shownRow?, class_rowTag plain.1, line, numbered, Markup.unescape_escape,
          String.ofList_toList, shownAs]
      rw [writtenRows, List.mapM_cons, here, ih plain.2]
      rfl

theorem shownFrom_numbers (number : Nat) (rows : List Row) :
    (shownFrom number rows).map ShownRow.number =
      (List.range' number rows.length).map toString := by
  induction rows generalizing number with
  | nil => rfl
  | cons row rows ih =>
      rw [shownFrom, List.map_cons, ih, List.length_cons, List.range'_succ, List.map_cons]
      rfl

/-- Everything else that is shown of a row does not depend on its number. -/
theorem map_shownFrom {Shown : Type} (shownOf : ShownRow → Shown) (ofRow : Row → Shown)
    (same : ∀ number row, shownOf (shownAs number row) = ofRow row) (number : Nat)
    (rows : List Row) : (shownFrom number rows).map shownOf = rows.map ofRow := by
  induction rows generalizing number with
  | nil => rfl
  | cons row rows ih => rw [shownFrom, List.map_cons, List.map_cons, same, ih]

theorem length_shownFrom (number : Nat) (rows : List Row) :
    (shownFrom number rows).length = rows.length := by
  rw [← List.length_map ShownRow.number, shownFrom_numbers, List.length_map, List.length_range']

/-! ### A page and the annotated listing -/

theorem scan_page {title : String} {rules : String} {rows : List Row} (nonempty : rows ≠ [])
    (noTitle : '<' ∉ title.toList) (noRules : '<' ∉ rules.toList)
    (plain : ∀ row ∈ rows, Plain row.styleClass) :
    Markup.scan (Html.page title rules
        ("<table>\n" ++ "\n".intercalate (Html.rowsMarkup 1 rows) ++ "\n</table>")) =
      headPieces title rules ++ rowsPieces 1 rows ++ footPieces := by
  refine Markup.scan_of_written ?_ (by decide) (write_page title rules nonempty)
  rw [List.forall_mem_append, List.forall_mem_append]
  exact ⟨⟨fits_headPieces noTitle noRules, fits_rowsPieces plain 1⟩, fits_footPieces⟩

theorem rows_of_pieces (title rules : String) (rows : List Row) :
    (Markup.rowsFrom (headPieces title rules ++ rowsPieces 1 rows ++ footPieces)).2 =
      writtenRows 1 rows := by
  have behind : Markup.rowsFrom footPieces = ([], []) := by
    have apart : ∀ tag ∈ footPieces.map Piece.tag, Apart tag := apart_footTags
    have nothing := rowsFrom_apart apart []
    rwa [List.append_nil] at nothing
  have before : ∀ tag ∈ (headPieces title rules).map Piece.tag, Apart tag := by
    rw [tags_headPieces]
    exact apart_headTags
  rw [List.append_assoc, rowsFrom_apart before, rowsFrom_rowsPieces, behind, List.append_nil]

theorem plain_code : Plain Html.codeClass := by
  unfold Plain
  decide

theorem entryRows_plain {colors : List String} {classes : Classes}
    (numbered : Numbered colors classes) (entries : List Entry) :
    ∀ row ∈ entries.flatMap (Html.entryRows classes), Plain row.styleClass := by
  intro row member
  obtain ⟨entry, _among, inEntry⟩ := List.mem_flatMap.mp member
  rcases List.mem_cons.mp inEntry with rfl | ofLine
  · exact plain_code
  · obtain ⟨line, _inLines, rfl⟩ := List.mem_map.mp ofLine
    exact numbered.plain entry.displayColor

theorem entryRows_texts (classes : Classes) (entries : List Entry) :
    (entries.flatMap (Html.entryRows classes)).map Row.text =
      entries.flatMap Annotated.entryLines := by
  rw [List.map_flatMap]
  congr 1
  funext entry
  rw [Html.entryRows, List.map_cons, List.map_map, Annotated.entryLines, Annotated.headerMark]
  congr 1
  exact List.map_id _

theorem entryRows_lines (classes : Classes) (entries : List Entry) :
    ((entries.flatMap (Html.entryRows classes)).map fun row => toString row.sourceLine) =
      entries.flatMap fun entry =>
        List.replicate (1 + entry.assemblyLines.length) (toString entry.sourceLine) := by
  rw [List.map_flatMap]
  congr 1
  funext entry
  rw [Nat.add_comm, List.replicate_succ, Html.entryRows, List.map_cons, List.map_map]
  congr 1
  change (entry.assemblyLines.map fun _ => toString entry.sourceLine) = _
  exact List.map_const'

/-- The rows of the page of a correlation. -/
def pageRows (correlation : Correlation) : List Row :=
  correlation.entries.flatMap (Html.entryRows (Html.classesOf correlation.entries))

theorem pageRows_plain (correlation : Correlation) :
    ∀ row ∈ pageRows correlation, Plain row.styleClass :=
  entryRows_plain (numbered_classesOf correlation.entries) correlation.entries

theorem scan_content {correlation : Correlation} (entries : correlation.isEmpty = false) :
    Markup.scan (html.content correlation) =
      headPieces (Html.escape correlation.sourceName)
        (Html.styleRules (Html.classesOf correlation.entries)) ++
        rowsPieces 1 (pageRows correlation) ++ footPieces := by
  have nonempty : pageRows correlation ≠ [] := by
    unfold pageRows
    cases same : correlation.entries with
    | nil =>
        rw [Correlation.isEmpty, same] at entries
        cases entries
    | cons entry others => simp [Html.entryRows]
  have page : html.content correlation = Html.page (Html.escape correlation.sourceName)
      (Html.styleRules (Html.classesOf correlation.entries))
      (Html.tableMarkup correlation (Html.classesOf correlation.entries)) := by
    simp only [html, Html.render, entries, Bool.false_eq_true, if_false]
  rw [page, Html.tableMarkup]
  exact scan_page nonempty (Markup.not_mem_escape (by decide) correlation.sourceName)
    (numbered_classesOf correlation.entries).noBracket_styleRules (pageRows_plain correlation)

theorem shownRows?_content {correlation : Correlation} (entries : correlation.isEmpty = false) :
    shownRows? (html.content correlation) = some (shownFrom 1 (pageRows correlation)) := by
  rw [shownRows?, Markup.tableRows, scan_content entries, rows_of_pieces]
  exact shown_writtenRows (pageRows_plain correlation) 1

/-- The texts of the rows are the lines of the annotated listing. -/
theorem texts_pageRows {correlation : Correlation} (entries : correlation.isEmpty = false) :
    "\n".intercalate ((shownFrom 1 (pageRows correlation)).map ShownRow.text) ++ "\n" =
      annotated.content correlation := by
  rw [map_shownFrom ShownRow.text Row.text (fun _ _ => rfl), pageRows, entryRows_texts]
  simp only [annotated, Annotated.render, entries, Bool.false_eq_true, if_false]

/-- A correlation with entries has a page unless the line of one of them has too many digits to be
written, which no line of a listing has. Whatever its texts are, the tags of the page are those of
its frame and six for each row; its rows are numbered from one without gaps, the texts in them are
the lines of the annotated listing, and each has the line of its entry. -/
theorem page_shows_annotated {correlation : Correlation} (entries : correlation.isEmpty = false) :
    ((∃ page, html.spelled correlation = .ok page) ↔
      ∀ entry ∈ correlation.entries, Number.IsShort entry.sourceLine) ∧
    (∀ failure, html.spelled correlation = .error failure → failure = .numberTooLong) ∧
    (∀ dialect presentation listing target source name,
      correlate dialect presentation listing target source name = .ok correlation →
        ∃ page, html.spelled correlation = .ok page) ∧
    ∀ page, html.spelled correlation = .ok page →
      ∃ shown : List ShownRow, shownRows? page = some shown ∧
        shown.map ShownRow.number = (List.range' 1 shown.length).map toString ∧
        annotated.spelled correlation =
          .ok ("\n".intercalate (shown.map ShownRow.text) ++ "\n") ∧
        (shown.map ShownRow.sourceLine = correlation.entries.flatMap fun entry =>
          List.replicate (1 + entry.assemblyLines.length) (toString entry.sourceLine)) ∧
        Markup.tags page =
          headTags ++ (shown.flatMap fun row => rowTags row.styleClass row.sourceLine) ++
            footTags := by
  refine ⟨exists_page_iff correlation, fun _failure => eq_numberTooLong_of_spelled,
    fun _ _ _ _ _ _ => exists_page_of_correlate, ?_⟩
  intro page told
  obtain ⟨_short, rfl⟩ := eq_content_of_spelled told
  refine ⟨shownFrom 1 (pageRows correlation), shownRows?_content entries, ?_, ?_, ?_, ?_⟩
  · rw [shownFrom_numbers, length_shownFrom]
  · rw [texts_pageRows entries, spelled_annotated]
  · rw [map_shownFrom ShownRow.sourceLine (fun row => toString row.sourceLine) (fun _ _ => rfl),
      pageRows, entryRows_lines]
  · rw [Markup.tags, scan_content entries, List.map_append, List.map_append, tags_headPieces,
      tags_rowsPieces, List.flatMap_def, List.flatMap_def,
      map_shownFrom (fun shown => rowTags shown.styleClass shown.sourceLine)
        (fun row => rowTags row.styleClass (toString row.sourceLine)) (fun _ _ => rfl)]
    rfl

/-- Texts that would break a page if they stood in it as they are. -/
def hostile : Correlation :=
  { sourceName := "</title><b>.c"
    entries :=
      [{ sourceLine := 3
         sourceText := "if (a<b) \x7b"
         assemblyText := "\tcmp \"$x\"\r\n</td></tr>"
         displayColor := "</style>" }] }

/-- Such texts stay in their cells. -/
theorem page_shows_annotated_hostile :
    hostile.isEmpty = false ∧
      ∃ page, html.spelled hostile = .ok page ∧
        ∃ shown : List ShownRow, shownRows? page = some shown ∧
          shown.map ShownRow.number = (List.range' 1 shown.length).map toString ∧
          "\n".intercalate (shown.map ShownRow.text) ++ "\n" =
            ";== if (a<b) \x7b\n\tcmp \"$x\"\n</td></tr>\n" ∧
          shown.map ShownRow.sourceLine = ["3", "3", "3"] ∧
          Markup.tags page =
            headTags ++ (shown.flatMap fun row => rowTags row.styleClass row.sourceLine) ++
              footTags := by
  obtain ⟨given, _failing, _listed, rows⟩ := @page_shows_annotated hostile rfl
  have short : Number.IsShort 3 := by
    unfold Number.IsShort
    decide
  obtain ⟨page, told⟩ := given.mpr (List.forall_mem_singleton.mpr short)
  obtain ⟨shown, read, numbers, texts, lines, tags⟩ := rows page told
  refine ⟨rfl, page, told, shown, read, numbers, ?_, lines.trans ?_, tags⟩
  · rw [spelled_annotated] at texts
    rw [← Except.ok.inj texts]
    decide +kernel
  · decide +kernel

end ListingAtlas.View
