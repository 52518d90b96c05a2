import ListingAtlas.Listing.Msvc
import ListingAtlas.Number.Reading
import ListingAtlas.Table
import ListingAtlas.Text.LineBreak
import ListingAtlas.Workspace

/-!
Attributing instructions to source lines. A listing is read once, line by line; an instruction
belongs to the source line announced last, if it stands in a code segment of the target file.
-/

namespace ListingAtlas.Listing

/-- The instructions of each source line, the lines in the order of their first instruction. -/
abbrev Blocks := Table Int (List String)

def Blocks.append (blocks : Blocks) (sourceLine : Int) (instruction : String) : Blocks :=
  blocks.insert sourceLine ((blocks.get? sourceLine).getD [] ++ [instruction])

def Blocks.instructionCount (blocks : Blocks) : Nat :=
  blocks.values.foldr (fun instructions count => instructions.length + count) 0

/-- What is known after a part of a listing. -/
structure State where
  inTarget : Bool
  inSegment : Bool
  /-- The source line that the next instructions belong to. -/
  current : Option Int
  blocks : Blocks

def State.initial : State :=
  { inTarget := false, inSegment := false, current := none, blocks := Table.empty }

/-- The file of interest: its path as the listing spells it, and how many lines it has. -/
structure Target where
  path : String
  lineCount : Int

/-- The number of a line directive; its token has to be a numeral and not too long. -/
def directiveNumber (position : Int) (line token : String) : Except Failure Int :=
  if !Text.isNumeral token.toList then .error (.malformedDirective position line)
  else if Number.digitLimit < token.toList.length then
    .error (.numeralTooLong token.toList.length)
  else .ok (Text.numberOf token.toList)

/-- A directive counts for lines of the source only, and only the first block of a line is kept. -/
def announcedLine (target : Target) (blocks : Blocks) (number : Int) : Option Int :=
  if number < 1 || target.lineCount < number || blocks.contains number then none else some number

def step (dialect : Dialect) (target : Target) (state : State) (position : Int) (line : String) :
    Except Failure State :=
  match dialect.classify line with
  | .fileDirective =>
      if dialect.namesFile line target.path then .ok { state with inTarget := true }
      else .ok { state with inTarget := false, inSegment := false, current := none }
  | kind =>
      if !state.inTarget then .ok state
      else
        match kind with
        | .segmentOpen => .ok { state with inSegment := true }
        | .segmentClose => .ok { state with inSegment := false, current := none }
        | .lineDirective =>
            (directiveNumber position line ((dialect.lineToken? line).getD "")).map fun number =>
              { state with current := announcedLine target state.blocks number }
        | .unindented => .ok { state with current := none }
        | .instruction =>
            match state.current, state.inSegment with
            | some sourceLine, true =>
                .ok { state with blocks := state.blocks.append sourceLine line }
            | _, _ => .ok state
        | _ => .ok state

/-- All lines in turn, the first of them at a position. -/
def run (dialect : Dialect) (target : Target) : State → Int → List String → Except Failure State
  | state, _, [] => .ok state
  | state, position, line :: lines =>
      match step dialect target state position line with
      | .error failure => .error failure
      | .ok next => run dialect target next (position + 1) lines

def blocksOfLines (dialect : Dialect) (target : Target) (lines : List String) :
    Except Failure Blocks :=
  (run dialect target State.initial 1 lines).map State.blocks

/-- The blocks of a listing, the lines of which end at line feeds. -/
def blocksOf (dialect : Dialect) (target : Target) (listing : String) : Except Failure Blocks :=
  blocksOfLines dialect target (Text.linesAtFeeds listing)

/-- The blocks of a listing file. -/
def blocksOfFile (dialect : Dialect) (target : Target) (workspace : Workspace) (path : Path) :
    Except Failure Blocks :=
  (workspace.readListing path).bind (blocksOf dialect target)

end ListingAtlas.Listing
