import ListingAtlas.Failure
import ListingAtlas.Path
import ListingAtlas.Table
import ListingAtlas.Text.LineBreak
import ListingAtlas.Text.Utf8

/-!
The files that a run can see and change: a tree of directories and files, and the directory that
relative paths start from.
-/

namespace ListingAtlas

open Text (Bytes)

inductive Node where
  | directory
  | file (content : Bytes)
deriving DecidableEq, Repr

/-- The names from the root down to a place. -/
abbrev Place := List String

structure Workspace where
  /-- Every place but the root, which is always a directory. -/
  nodes : Table Place Node
  workingDirectory : Path

namespace Workspace

def node? (workspace : Workspace) (place : Place) : Option Node :=
  if place.isEmpty then some .directory else workspace.nodes.get? place

def longestName : Nat := 255

/-- Follow names from a place; each of them needs a directory to look in. -/
def follow (workspace : Workspace) : Place → List String → Except PathProblem Place
  | place, [] => .ok place
  | place, name :: names =>
      match workspace.node? place with
      | none => .error .missing
      | some (.file _) => .error .notDirectory
      | some .directory =>
          if name == ".." then follow workspace place.dropLast names
          else if longestName < name.utf8ByteSize then .error .nameTooLong
          else follow workspace (place ++ [name]) names

def absolute (workspace : Workspace) (path : Path) : Path :=
  workspace.workingDirectory.join path

/-- How long a path may be as it is spelled, in bytes. -/
def longestPath : Nat := 4095

/-- The place that a path leads to, at which there may be nothing. -/
def locate (workspace : Workspace) (path : Path) : Except PathProblem Place :=
  if longestPath < path.toString.utf8ByteSize then .error .nameTooLong
  else workspace.follow [] (workspace.absolute path).parts

def lookUp (workspace : Workspace) (path : Path) : Except PathProblem Node :=
  match workspace.locate path with
  | .error problem => .error problem
  | .ok place =>
      match workspace.node? place with
      | some node => .ok node
      | none => .error .missing

def holdsNull (path : Path) : Bool :=
  path.parts.any fun part => part.toList.contains '\x00'

/-! ### Looking -/

/-- What is at a path, if anything. A name that is too long cannot even be asked about. -/
def probe (workspace : Workspace) (path : Path) : Except Failure (Option Node) :=
  if holdsNull path then .ok none
  else
    match workspace.lookUp path with
    | .ok node => .ok (some node)
    | .error .nameTooLong => .error (.unusablePath .nameTooLong path.toString)
    | .error _ => .ok none

def isFile (workspace : Workspace) (path : Path) : Except Failure Bool :=
  (workspace.probe path).map fun
    | some (.file _) => true
    | _ => false

def isDirectory (workspace : Workspace) (path : Path) : Except Failure Bool :=
  (workspace.probe path).map fun
    | some .directory => true
    | _ => false

def holds (workspace : Workspace) (path : Path) : Except Failure Bool :=
  (workspace.probe path).map Option.isSome

/-- The absolute path without steps upward. -/
def resolve (workspace : Workspace) (path : Path) : Except Failure Path :=
  if holdsNull path then .error .nullInPath
  else .ok { (workspace.absolute path).withoutSteps with root := "/" }

def readBytes (workspace : Workspace) (path : Path) : Except PathProblem Bytes :=
  match workspace.lookUp path with
  | .ok (.file content) => .ok content
  | .ok .directory => .error .isDirectory
  | .error problem => .error problem

/-- Bytes as text: ill-formed parts replaced, and every line break a line feed. -/
def textOf (content : Bytes) : String :=
  String.ofList (Text.unifyBreaks (Text.decodeFrom none content))

/-- The text of a source file. -/
def readSource (workspace : Workspace) (path : Path) : Except Failure String :=
  if holdsNull path then .error .nullInPath
  else
    match workspace.readBytes path with
    | .ok content => .ok (textOf content)
    | .error problem => .error (.unusablePath problem path.toString)

/-- The text of a listing file. -/
def readListing (workspace : Workspace) (path : Path) : Except Failure String :=
  if holdsNull path then .error .nullInPath
  else
    match workspace.readBytes path with
    | .ok content => .ok (textOf content)
    | .error problem => .error (.unreadableListing path.toString problem.reason)

/-! ### Changing -/

def setFile (workspace : Workspace) (place : Place) (content : Bytes) : Workspace :=
  { workspace with nodes := workspace.nodes.insert place (.file content) }

/-- Write a file, new or in place of an old one. -/
def writeBytes (workspace : Workspace) (path : Path) (content : Bytes) :
    Except Failure Workspace :=
  if holdsNull path then .error .nullInPath
  else
    match workspace.locate path with
    | .error problem => .error (.unusablePath problem path.toString)
    | .ok place =>
        match workspace.node? place with
        | some .directory => .error (.unusablePath .isDirectory path.toString)
        | _ => .ok (workspace.setFile place content)

/-- Remove a file if it is there. -/
def removeFile (workspace : Workspace) (path : Path) : Workspace :=
  match workspace.locate path with
  | .error _ => workspace
  | .ok place =>
      match workspace.node? place with
      | some (.file _) => { workspace with nodes := workspace.nodes.erase place }
      | _ => workspace

/-! ### Building -/

/-- A directory for each name in turn, from a place down, where there is nothing yet. -/
def addDirectories (workspace : Workspace) : Place → List String → Workspace
  | _, [] => workspace
  | place, name :: names =>
      let below := place ++ [name]
      let grown := match workspace.node? below with
        | some _ => workspace
        | none => { workspace with nodes := workspace.nodes.insert below .directory }
      addDirectories grown below names

def addDirectory (workspace : Workspace) (place : Place) : Workspace :=
  workspace.addDirectories [] place

def addFile (workspace : Workspace) (place : Place) (content : Bytes) : Workspace :=
  (workspace.addDirectory place.dropLast).setFile place content

/-- Nothing but a working directory. -/
def empty (workingDirectory : Path) : Workspace :=
  addDirectory { nodes := Table.empty, workingDirectory } workingDirectory.parts

end Workspace

end ListingAtlas
