import ListingAtlas.Json
import ListingAtlas.Number.Written
import ListingAtlas.Text.Quoted

/-!
JSON documents as text: two blanks for each level, one item a line, and every character as itself
unless JSON forbids it inside a string.
-/

namespace ListingAtlas.Json

open Number

def escapedChar (character : Char) : List Char :=
  if character == '"' || character == '\\' then ['\\', character]
  else if character == '\n' then ['\\', 'n']
  else if character == '\r' then ['\\', 'r']
  else if character == '\t' then ['\\', 't']
  else if character == '\x0c' then ['\\', 'f']
  else if character == '\x08' then ['\\', 'b']
  else if character.toNat < 0x20 then '\\' :: 'u' :: Text.hexadecimal 4 character.toNat
  else [character]

def writeString (value : String) : List Char :=
  '"' :: (value.toList.flatMap escapedChar ++ ['"'])

def writeInt (value : Int) : List Char :=
  (toString value).toList

def writeReal : Binary64 → List Char
  | .notANumber => "NaN".toList
  | .infinite negative => signText negative ++ "Infinity".toList
  | number => (shortest number).toList

/-- A line break and the blanks of a level. -/
def newLine (level : Nat) : List Char :=
  '\n' :: List.replicate (2 * level) ' '

mutual

def write (level : Nat) : Json String → List Char
  | .null => "null".toList
  | .bool value => (if value then "true" else "false").toList
  | .int value => writeInt value
  | .real value => writeReal value
  | .text value => writeString value
  | .list [] => ['[', ']']
  | .list (item :: items) =>
      '[' :: (newLine (level + 1) ++ write (level + 1) item ++ writeItems level items)
  | .record [] => ['{', '}']
  | .record ((name, item) :: fields) =>
      '{' :: (newLine (level + 1) ++ writeString name ++ [':', ' '] ++ write (level + 1) item ++
        writeFields level fields)

/-- The items after the first, and the end of the list. -/
def writeItems (level : Nat) : List (Json String) → List Char
  | [] => newLine level ++ [']']
  | item :: items =>
      ',' :: (newLine (level + 1) ++ write (level + 1) item ++ writeItems level items)

/-- The fields after the first, and the end of the record. -/
def writeFields (level : Nat) : List (String × Json String) → List Char
  | [] => newLine level ++ ['}']
  | (name, item) :: fields =>
      ',' :: (newLine (level + 1) ++ writeString name ++ [':', ' '] ++ write (level + 1) item ++
        writeFields level fields)

end

def render (document : Json String) : String :=
  String.ofList (write 0 document)

end ListingAtlas.Json
