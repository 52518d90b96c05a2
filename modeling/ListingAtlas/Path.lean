/-!
Paths of a file system with one root: the names from the root, or from the working directory, down.
Repeated separators and names for the same place are dropped; steps upward are kept.
-/

namespace ListingAtlas

structure Path where
  /-- Nothing for a relative path, else one separator, or just two. -/
  root : String
  parts : List String
deriving DecidableEq, Repr

namespace Path

/-- The names between separators. -/
def splitNames : List Char → List (List Char)
  | [] => [[]]
  | '/' :: rest => [] :: splitNames rest
  | character :: rest =>
      match splitNames rest with
      | [] => [[character]]
      | name :: names => (character :: name) :: names

def rootOf : List Char → String
  | '/' :: '/' :: '/' :: _ => "/"
  | '/' :: '/' :: _ => "//"
  | '/' :: _ => "/"
  | _ => ""

def parse (text : String) : Path :=
  { root := rootOf text.toList
    parts := (splitNames text.toList).filterMap fun name =>
      if name == [] || name == ['.'] then none else some (String.ofList name) }

def toString (path : Path) : String :=
  if path.root.isEmpty && path.parts.isEmpty then "."
  else path.root ++ "/".intercalate path.parts

def isAbsolute (path : Path) : Bool :=
  !path.root.isEmpty

/-- A path taken from another one; an absolute path stands alone. -/
def join (path other : Path) : Path :=
  if other.isAbsolute then other else { path with parts := path.parts ++ other.parts }

def child (path : Path) (name : String) : Path :=
  { path with parts := path.parts ++ [name] }

def parent (path : Path) : Path :=
  { path with parts := path.parts.dropLast }

/-! ### Names -/

/-- The last name, or nothing for a root. -/
def name (path : Path) : String :=
  path.parts.getLast?.getD ""

/-- A name before and from its last dot. A dot at either end of the name does not count. -/
def splitName (name : String) : String × String :=
  let extension := (name.toList.reverse.takeWhile (· != '.')).reverse
  let before := (name.toList.reverse.dropWhile (· != '.')).reverse.dropLast
  if extension.isEmpty || before.isEmpty then (name, "")
  else (String.ofList before, String.ofList ('.' :: extension))

def stem (path : Path) : String :=
  (splitName path.name).1

def suffix (path : Path) : String :=
  (splitName path.name).2

/-- Every step upward taken, without a look at what is there. -/
def withoutSteps (path : Path) : Path :=
  { path with
    parts := path.parts.foldl (fun taken part =>
      if part == ".." then taken.dropLast else taken ++ [part]) [] }

end Path

end ListingAtlas
