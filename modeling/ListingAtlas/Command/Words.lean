/-!
The words of a command line. A word is quoted, by apostrophes or by quotation marks, or it is a run
of characters in which a blank needs a backslash in front. A quote that nothing closes is an
ordinary character.
-/

namespace ListingAtlas.Command

/-! ### Where a quoted word ends -/

/-- The text up to and with the first closing quote, and the rest. A quote after a backslash does
not close the word. -/
def throughFirstQuote? (quote before : Char) : List Char → Option (List Char × List Char)
  | [] => none
  | character :: rest =>
      if character == quote && before != '\\' then some ([character], rest)
      else
        (throughFirstQuote? quote character rest).map fun (taken, after) =>
          (character :: taken, after)

/-- The text up to and with the last quote of all, and the rest. -/
def throughLastQuote? (quote : Char) : List Char → Option (List Char × List Char)
  | [] => none
  | character :: rest =>
      match throughLastQuote? quote rest with
      | some (taken, after) => some (character :: taken, after)
      | none => if character == quote then some ([character], rest) else none

/-- A quoted word without its opening quote. If every quote follows a backslash, the last one
closes the word all the same. -/
def quotedWord? (quote : Char) (rest : List Char) : Option (List Char × List Char) :=
  match throughFirstQuote? quote quote rest with
  | some found => some found
  | none => throughLastQuote? quote rest

/-! ### Words -/

/-- A run of characters other than blanks, a blank after a backslash excepted, and the rest. -/
def bareWord : List Char → List Char × List Char
  | [] => ([], [])
  | '\\' :: ' ' :: rest =>
      let (taken, after) := bareWord rest
      ('\\' :: ' ' :: taken, after)
  | ' ' :: rest => ([], ' ' :: rest)
  | character :: rest =>
      let (taken, after) := bareWord rest
      (character :: taken, after)

/-- The word at the front of a text that does not start with a blank. -/
def firstWord (first : Char) (rest : List Char) : List Char × List Char :=
  let quoted := if first == '\'' || first == '"' then quotedWord? first rest else none
  match quoted with
  | some (taken, after) => (first :: taken, after)
  | none => bareWord (first :: rest)

/-- The words as they are written; the bound is at least the length of the text. -/
def rawWordsWithin : Nat → List Char → List (List Char)
  | 0, _ => []
  | _ + 1, [] => []
  | bound + 1, ' ' :: rest => rawWordsWithin bound rest
  | bound + 1, first :: rest =>
      let (word, after) := firstWord first rest
      word :: rawWordsWithin bound after

def rawWords (commandLine : List Char) : List (List Char) :=
  rawWordsWithin commandLine.length commandLine

/-! ### Arguments -/

/-- A word of two characters or more without the quotes around it. -/
def unquoted (word : List Char) : List Char :=
  match word with
  | first :: second :: rest =>
      if (first == '\'' || first == '"') && (second :: rest).getLast? == some first then
        (second :: rest).dropLast
      else word
  | _ => word

/-- Every escaped quotation mark as a plain one. -/
def plainMarks : List Char → List Char
  | [] => []
  | '\\' :: '"' :: rest => '"' :: plainMarks rest
  | character :: rest => character :: plainMarks rest

def splitCommand (commandLine : String) : List String :=
  (rawWords commandLine.toList).map fun word => String.ofList (plainMarks (unquoted word))

end ListingAtlas.Command
