import ListingAtlas.CommandLine.Switch
import ListingAtlas.Text.Digit

/-!
What each argument of a command line is. A long switch may be cut short as long as only one begins
so, and may carry its value behind an equals sign; short switches may be run together, and once that
could be done behind an equals sign as well. Behind two hyphens that stand alone nothing is a switch.
-/

namespace ListingAtlas.CommandLine

/-- What stands in the same argument as a switch. -/
inductive Attached where
  | nothing
  | assigned (value : List Char)
  | adjoined (rest : List Char)
deriving DecidableEq, Repr

inductive Argument where
  | switch (switch : Switch) (attached : Attached)
  | unknown (text : String)
  | plain (text : String)
  | divider
deriving DecidableEq, Repr

def dividerText : String := "--"

/-! ### Switches -/

/-- A text before its first equals sign, and behind it if there is one. -/
def splitAssignment : List Char → List Char × Option (List Char)
  | [] => ([], none)
  | '=' :: value => ([], some value)
  | character :: rest =>
      let (name, value) := splitAssignment rest
      (character :: name, value)

def attachedValue : Option (List Char) → Attached
  | some value => .assigned value
  | none => .nothing

def isShort : List Char → Bool
  | '-' :: letter :: _ => letter != '-'
  | _ => false

/-- What an equals sign puts behind a switch that is spelled out. In the early edition it is more
short switches behind a short one, unless it is nothing. -/
def assignedTo (edition : Edition) (name value : List Char) : Attached :=
  if edition == .early && isShort name && !value.isEmpty then .adjoined value
  else .assigned value

/-- The long switches that begin so. -/
def abbreviated (characters : List Char) : List (String × Argument) :=
  let (name, value) := splitAssignment characters
  spellings.filterMap fun item =>
    if name.isPrefixOf item.1.toList then
      some (item.1, .switch item.2 (attachedValue value))
    else none

/-- The short switch at the beginning, the rest of the argument adjoined to it. -/
def adjoined (characters : List Char) : List (String × Argument) :=
  spellings.filterMap fun item =>
    if item.1.toList == characters.take 2 then
      some (item.1, .switch item.2 (.adjoined (characters.drop 2)))
    else none

def candidates : List Char → List (String × Argument)
  | '-' :: '-' :: rest => abbreviated ('-' :: '-' :: rest)
  | characters => adjoined characters

/-! ### Values that look like switches -/

def withoutFinalFeed (characters : List Char) : List Char :=
  if characters.getLast? == some '\n' then characters.dropLast else characters

/-- Digits, with a point before or among them at most; one line feed may end the number. -/
def isUnsignedNumber (characters : List Char) : Bool :=
  let number := withoutFinalFeed characters
  Text.isNumeral number ||
    match number.dropWhile Text.isDigit with
    | '.' :: fraction => Text.isNumeral fraction
    | _ => false

/-- A number below zero is a value, and so is whatever holds a blank. -/
def looksPlain (characters : List Char) : Bool :=
  isUnsignedNumber (characters.drop 1) || characters.contains ' '

/-! ### Arguments -/

/-- An argument that is not one of the spellings but begins with a hyphen. -/
def classifyInexact (edition : Edition) (text : String) : Except Misuse Argument :=
  let (name, value) := splitAssignment text.toList
  match value, spellings.lookup (String.ofList name) with
  | some value, some switch => .ok (.switch switch (assignedTo edition name value))
  | _, _ =>
      match candidates text.toList with
      | [] => .ok (if looksPlain text.toList then .plain text else .unknown text)
      | [candidate] => .ok candidate.2
      | several => .error (.ambiguous text (several.map Prod.fst))

def classify (edition : Edition) (text : String) : Except Misuse Argument :=
  match text.toList with
  | '-' :: _ :: _ =>
      match spellings.lookup text with
      | some switch => .ok (.switch switch .nothing)
      | none => classifyInexact edition text
  | _ => .ok (.plain text)

def classifyAll (edition : Edition) : List String → Except Misuse (List Argument)
  | [] => .ok []
  | text :: rest =>
      if text == dividerText then .ok (.divider :: rest.map .plain)
      else do
        let argument ← classify edition text
        let others ← classifyAll edition rest
        return argument :: others

end ListingAtlas.CommandLine
