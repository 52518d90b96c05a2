import ListingAtlas.View.Html

/-!
Markup as a reader of it sees it. Tags are told from text by their characters alone, and the rows of
a table are the cells between the tags of each row. Where text holds no angle bracket and tags are
closed, scanning gives back just the pieces that were written; and escaped text holds none.
-/

namespace ListingAtlas.View.Markup

/-! ### Scanning -/

/-- A tag, without its brackets, and the text before it. -/
structure Piece where
  text : List Char
  tag : List Char
deriving DecidableEq, Repr

inductive Mode where
  | text
  | tag
  /-- In a tag, in a value that this quote ends. -/
  | value (quote : Char)
deriving DecidableEq, Repr

/-- What has been read: the pieces so far, and the text and the tag that come behind them. -/
structure Scanner where
  pieces : List Piece
  text : List Char
  tag : List Char
  mode : Mode
deriving DecidableEq, Repr

def isQuote (character : Char) : Bool :=
  character == '"' || character == '\''

namespace Scanner

def initial : Scanner :=
  { pieces := [], text := [], tag := [], mode := .text }

def read (scanner : Scanner) (character : Char) : Scanner :=
  match scanner.mode with
  | .text =>
      if character == '<' then { scanner with mode := .tag }
      else { scanner with text := scanner.text ++ [character] }
  | .tag =>
      if character == '>' then
        { pieces := scanner.pieces ++ [⟨scanner.text, scanner.tag⟩], text := [], tag := []
          mode := .text }
      else
        { scanner with
          tag := scanner.tag ++ [character]
          mode := if isQuote character then .value character else .tag }
  | .value quote =>
      { scanner with
        tag := scanner.tag ++ [character]
        mode := if character == quote then .tag else .value quote }

def after (scanner : Scanner) (characters : List Char) : Scanner :=
  characters.foldl read scanner

end Scanner

def scan (markup : String) : List Piece :=
  (Scanner.initial.after markup.toList).pieces

def tags (markup : String) : List (List Char) :=
  (scan markup).map Piece.tag

/-! ### What is written -/

def Piece.write (piece : Piece) : List Char :=
  piece.text ++ '<' :: piece.tag ++ ['>']

/-- Characters that may stand in a tag: a scanner in a tag stays in it. -/
def Closed (characters : List Char) : Prop :=
  ∀ scanner : Scanner, scanner.mode = .tag →
    scanner.after characters = { scanner with tag := scanner.tag ++ characters }

structure Piece.Fits (piece : Piece) : Prop where
  text : '<' ∉ piece.text
  tag : Closed piece.tag

section

variable {characters more : List Char}

theorem Scanner.after_append (scanner : Scanner) (characters more : List Char) :
    scanner.after (characters ++ more) = (scanner.after characters).after more :=
  List.foldl_append

theorem Closed.append (first : Closed characters) (second : Closed more) :
    Closed (characters ++ more) := by
  intro scanner inTag
  rw [Scanner.after_append, first scanner inTag,
    second { scanner with tag := scanner.tag ++ characters } inTag]
  simp only [List.append_assoc]

/-- A scanner that stays as it is at each character reads all of them into its tag. -/
theorem Scanner.after_of_stays {mode : Mode} (stays : ∀ character ∈ characters,
      ∀ scanner : Scanner, scanner.mode = mode →
        scanner.read character = { scanner with tag := scanner.tag ++ [character] })
    (scanner : Scanner) (here : scanner.mode = mode) :
    scanner.after characters = { scanner with tag := scanner.tag ++ characters } := by
  induction characters generalizing scanner with
  | nil => simp only [Scanner.after, List.foldl_nil, List.append_nil]
  | cons character characters ih =>
      rw [List.forall_mem_cons] at stays
      have rest := ih stays.2 { scanner with tag := scanner.tag ++ [character] } here
      rw [Scanner.after, List.foldl_cons, stays.1 scanner here]
      refine rest.trans ?_
      simp only [List.append_assoc, List.singleton_append]

theorem closed_plain (noBracket : '>' ∉ characters)
    (noQuote : ∀ c ∈ characters, isQuote c = false) : Closed characters := by
  refine Scanner.after_of_stays fun character member scanner inTag => ?_
  have other : (character == '>') = false := beq_false_of_ne fun same => noBracket (same ▸ member)
  simp only [Scanner.read, inTag, other, noQuote character member, Bool.false_eq_true, if_false]

theorem closed_word (plain : (characters.all fun c => c != '>' && !isQuote c) = true) :
    Closed characters := by
  rw [List.all_eq_true] at plain
  refine closed_plain ?_ ?_
  · intro member
    exact absurd (plain '>' member) (by decide)
  · intro c member
    have both := plain c member
    rw [Bool.and_eq_true, Bool.not_eq_true'] at both
    exact both.2

/-- A piece whose tag is one word. -/
theorem Piece.fits_word (noBracket : '<' ∉ characters)
    (word : (more.all fun c => c != '>' && !isQuote c) = true) : Piece.Fits ⟨characters, more⟩ :=
  ⟨noBracket, closed_word word⟩

/-- In a value, everything but the quote that ends it is read over. -/
theorem Scanner.after_value (scanner : Scanner) {quote : Char} (noQuote : quote ∉ characters)
    (inValue : scanner.mode = .value quote) :
    scanner.after characters = { scanner with tag := scanner.tag ++ characters } := by
  refine Scanner.after_of_stays (fun character member scanner inValue => ?_) scanner inValue
  have other : (character == quote) = false := beq_false_of_ne fun same => noQuote (same ▸ member)
  simp only [Scanner.read, inValue, other, Bool.false_eq_true, if_false]

theorem closed_value (noQuote : '"' ∉ characters) : Closed ('"' :: characters ++ ['"']) := by
  intro scanner inTag
  have opened : scanner.after ['"'] =
      { scanner with tag := scanner.tag ++ ['"'], mode := .value '"' } := by
    simp [Scanner.after, Scanner.read, inTag, isQuote]
  have split : '"' :: characters ++ ['"'] = ['"'] ++ characters ++ ['"'] := rfl
  rw [split, Scanner.after_append, Scanner.after_append, opened,
    Scanner.after_value _ noQuote rfl]
  simp [Scanner.after, Scanner.read, inTag]

/-- A tag with one value. -/
theorem closed_attribute (word value : List Char)
    (plain : (word.all fun c => c != '>' && !isQuote c) = true) (noQuote : '"' ∉ value) :
    Closed (word ++ ('"' :: value ++ ['"'])) :=
  (closed_word plain).append (closed_value noQuote)

theorem Scanner.after_text (scanner : Scanner) (noBracket : '<' ∉ characters)
    (inText : scanner.mode = .text) :
    scanner.after characters = { scanner with text := scanner.text ++ characters } := by
  induction characters generalizing scanner with
  | nil => simp only [Scanner.after, List.foldl_nil, List.append_nil]
  | cons character characters ih =>
      rw [List.mem_cons, not_or] at noBracket
      have stays : scanner.read character =
          { scanner with text := scanner.text ++ [character] } := by
        have other : (character == '<') = false := by simpa using Ne.symm noBracket.1
        simp only [Scanner.read, inText, other, Bool.false_eq_true, if_false]
      have rest := ih { scanner with text := scanner.text ++ [character] } noBracket.2 inText
      rw [Scanner.after, List.foldl_cons, stays]
      refine rest.trans ?_
      simp only [List.append_assoc, List.singleton_append]

/-- A scanner between two tags. -/
def Scanner.behind (pieces : List Piece) : Scanner :=
  { initial with pieces }

theorem Scanner.after_piece {piece : Piece} (fits : piece.Fits) (pieces : List Piece) :
    (behind pieces).after piece.write = behind (pieces ++ [piece]) := by
  have parts : piece.write = piece.text ++ (['<'] ++ (piece.tag ++ ['>'])) := by
    simp only [Piece.write, List.append_assoc, List.cons_append, List.nil_append]
  have opened (scanner : Scanner) (inText : scanner.mode = .text) :
      scanner.after ['<'] = { scanner with mode := .tag } := by
    simp [Scanner.after, Scanner.read, inText]
  rw [parts, after_append, after_text _ fits.text rfl, after_append, opened _ rfl, after_append,
    fits.tag _ rfl]
  simp [Scanner.after, Scanner.read, behind, initial]

theorem Scanner.after_pieces {pieces : List Piece} (fit : ∀ piece ∈ pieces, piece.Fits)
    (before : List Piece) :
    (behind before).after (pieces.flatMap Piece.write) = behind (before ++ pieces) := by
  induction pieces generalizing before with
  | nil => simp only [List.flatMap_nil, List.append_nil, Scanner.after, List.foldl_nil]
  | cons piece pieces ih =>
      rw [List.forall_mem_cons] at fit
      rw [List.flatMap_cons, after_append, after_piece fit.1, ih fit.2, List.append_assoc,
        List.singleton_append]

/-- Scanning gives back the pieces that were written. -/
theorem scan_of_written {markup : String} {pieces : List Piece} {last : List Char}
    (fit : ∀ piece ∈ pieces, piece.Fits) (noBracket : '<' ∉ last)
    (written : markup.toList = pieces.flatMap Piece.write ++ last) : scan markup = pieces := by
  have start : Scanner.initial = Scanner.behind [] := rfl
  rw [scan, written, Scanner.after_append, start, Scanner.after_pieces fit, List.nil_append,
    Scanner.after_text _ noBracket rfl]
  rfl

end

/-! ### Rows of a table -/

/-- A row: its tag, and the text at the end of each of its cells. -/
structure TableRow where
  tag : List Char
  cells : List (List Char)
deriving DecidableEq, Repr

/-- What a tag is called: all that comes before its first blank. -/
def Piece.name (piece : Piece) : List Char :=
  piece.tag.takeWhile (· != ' ')

/-- The cells before the first row begins, and the rows behind them. -/
def rowsFrom : List Piece → List (List Char) × List TableRow
  | [] => ([], [])
  | piece :: pieces =>
      let (cells, rows) := rowsFrom pieces
      if piece.name = "tr".toList then ([], ⟨piece.tag, cells⟩ :: rows)
      else if piece.name = "/td".toList then (piece.text :: cells, rows)
      else if piece.name = "/tr".toList then ([], rows)
      else (cells, rows)

def tableRows (markup : String) : List TableRow :=
  (rowsFrom (scan markup)).2

/-- The value of an attribute: what stands in quotes behind its name. -/
def attribute? (name : List Char) : List Char → Option (List Char)
  | [] => none
  | character :: rest =>
      let opening := ' ' :: name ++ ['=', '"']
      if opening.isPrefixOf (character :: rest) then
        some (((character :: rest).drop opening.length).takeWhile (· != '"'))
      else attribute? name rest

section

variable {name value : List Char}

theorem attribute?_of_front {front : List Char} (noBlank : ' ' ∉ front) (rest : List Char) :
    attribute? name (front ++ rest) = attribute? name rest := by
  induction front with
  | nil => rfl
  | cons character front ih =>
      rw [List.mem_cons, not_or] at noBlank
      have elsewhere : (' ' :: name ++ ['=', '"']).isPrefixOf (character :: (front ++ rest)) =
          false := by
        have other : (' ' == character) = false := by simpa using noBlank.1
        simp only [List.cons_append, List.isPrefixOf, other, Bool.false_and]
      rw [List.cons_append, attribute?]
      simp only [elsewhere, Bool.false_eq_true, if_false]
      exact ih noBlank.2

theorem attribute?_here (noQuote : '"' ∉ value) (rest : List Char) :
    attribute? name ((' ' :: name ++ ['=', '"']) ++ (value ++ '"' :: rest)) = some value := by
  have found : (' ' :: name ++ ['=', '"']).isPrefixOf
      ((' ' :: name ++ ['=', '"']) ++ (value ++ '"' :: rest)) = true :=
    List.isPrefixOf_iff_prefix.mpr (List.prefix_append _ _)
  have closed : (value ++ '"' :: rest).takeWhile (· != '"') = value := by
    rw [List.takeWhile_append_of_pos]
    · simp
    · intro character member
      have other : character ≠ '"' := fun same => noQuote (same ▸ member)
      simpa using other
  rw [List.cons_append, List.cons_append, attribute?, ← List.cons_append, ← List.cons_append]
  simp only [found, if_true, List.drop_left]
  rw [closed]

end

/-! ### References -/

/-- Text as it is meant, the references to characters in it replaced by these. -/
def unescape : List Char → List Char
  | [] => []
  | '&' :: 'a' :: 'm' :: 'p' :: ';' :: rest => '&' :: unescape rest
  | '&' :: 'l' :: 't' :: ';' :: rest => '<' :: unescape rest
  | '&' :: 'g' :: 't' :: ';' :: rest => '>' :: unescape rest
  | '&' :: 'q' :: 'u' :: 'o' :: 't' :: ';' :: rest => '"' :: unescape rest
  | '&' :: '#' :: 'x' :: '2' :: '7' :: ';' :: rest => '\'' :: unescape rest
  | character :: rest => character :: unescape rest

theorem unescape_other {character : Char} (other : character ≠ '&') (rest : List Char) :
    unescape (character :: rest) = character :: unescape rest := by
  rw [unescape]
  all_goals
    intro _ same
    exact fun _ => other same

theorem unescape_escapedChar (character : Char) (rest : List Char) :
    unescape (Html.escapedChar character ++ rest) = character :: unescape rest := by
  unfold Html.escapedChar
  by_cases ampersand : character = '&'
  · rw [ampersand]
    rfl
  by_cases less : character = '<'
  · rw [less]
    rfl
  by_cases greater : character = '>'
  · rw [greater]
    rfl
  by_cases quote : character = '"'
  · rw [quote]
    rfl
  by_cases apostrophe : character = '\''
  · rw [apostrophe]
    rfl
  simp only [beq_iff_eq, ampersand, less, greater, quote, apostrophe, if_false]
  exact unescape_other ampersand rest

/-- Escaping loses nothing. -/
theorem unescape_escape (text : String) : unescape (Html.escape text).toList = text.toList := by
  rw [Html.escape, String.toList_ofList]
  induction text.toList with
  | nil => rfl
  | cons character rest ih => rw [List.flatMap_cons, unescape_escapedChar, ih]

/-- A character is escaped by a reference, or else opens and closes nothing. -/
theorem escapedChar_cases (character : Char) :
    (∃ reference ∈ ["&amp;", "&lt;", "&gt;", "&quot;", "&#x27;"],
      Html.escapedChar character = reference.toList) ∨
    (Html.escapedChar character = [character] ∧ character ∉ ['<', '>', '"', '\'']) := by
  unfold Html.escapedChar
  split
  · exact Or.inl ⟨_, by simp, rfl⟩
  split
  · exact Or.inl ⟨_, by simp, rfl⟩
  split
  · exact Or.inl ⟨_, by simp, rfl⟩
  split
  · exact Or.inl ⟨_, by simp, rfl⟩
  split
  · exact Or.inl ⟨_, by simp, rfl⟩
  · rename_i notLess notGreater notQuote notApostrophe
    simp only [beq_iff_eq] at notLess notGreater notQuote notApostrophe
    exact Or.inr ⟨rfl, by simp [notLess, notGreater, notQuote, notApostrophe]⟩

/-- Escaped text holds none of the characters that open and close tags and values. -/
theorem not_mem_escape {mark : Char} (special : mark ∈ ['<', '>', '"', '\'']) (text : String) :
    mark ∉ (Html.escape text).toList := by
  have references : ∀ reference ∈ ["&amp;", "&lt;", "&gt;", "&quot;", "&#x27;"],
      mark ∉ reference.toList := by
    simp only [List.mem_cons, List.not_mem_nil, or_false] at special
    rcases special with rfl | rfl | rfl | rfl <;> decide
  rw [Html.escape, String.toList_ofList, List.mem_flatMap]
  rintro ⟨character, _member, escaped⟩
  rcases escapedChar_cases character with ⟨reference, known, written⟩ | ⟨kept, unspecial⟩
  · rw [written] at escaped
    exact references reference known escaped
  · rw [kept, List.mem_singleton] at escaped
    subst escaped
    exact unspecial special

end ListingAtlas.View.Markup
