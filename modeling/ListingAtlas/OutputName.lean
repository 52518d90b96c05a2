import ListingAtlas.Workspace

/-!
Names for output files. A name that is taken gives way to the same name with the least number, from
two on, that is free.
-/

namespace ListingAtlas

structure OutputName where
  stem : String
  suffix : String
deriving DecidableEq, Repr

namespace OutputName

/-- A suffix before and from its last dot. A dot at its beginning does not count. -/
def splitSuffix (suffix : String) : String × String :=
  let behind := suffix.toList.reverse.takeWhile (· != '.')
  match suffix.toList.reverse.dropWhile (· != '.') with
  | '.' :: label =>
      if label.isEmpty then (suffix, "")
      else (String.ofList label.reverse, String.ofList ('.' :: behind.reverse))
  | _ => (suffix, "")

def plain (name : OutputName) : String :=
  name.stem ++ name.suffix

/-- The number stands before the extension. -/
def numbered (name : OutputName) (number : Nat) : String :=
  let (label, extension) := splitSuffix name.suffix
  name.stem ++ label ++ "-" ++ toString number ++ extension

/-- The first number that is not taken, from a number on; so many looks are taken at most. -/
def findFree {Looking : Type → Type} [Monad Looking] (isTaken : Nat → Looking Bool) :
    Nat → Nat → Looking Nat
  | 0, number => return number
  | looks + 1, number => do
      if ← isTaken number then findFree isTaken looks (number + 1) else return number

/-- The path under which a name is free in a directory, by a way of looking whether there is
something at a path. -/
def search {Looking : Type → Type} [Monad Looking] (holds : Path → Looking Bool) (looks : Nat)
    (directory : Path) (name : OutputName) : Looking Path := do
  let pathOf (text : String) := directory.join (Path.parse text)
  if ← holds (pathOf name.plain) then
    let number ← findFree (fun number => holds (pathOf (name.numbered number))) looks 2
    return pathOf (name.numbered number)
  else return pathOf name.plain

/-- The path under which a name is written to a directory, where nothing is yet. Each look that
finds a number taken finds another node, so one more look than there are nodes is enough. -/
def choose (workspace : Workspace) (directory : Path) (name : OutputName) :
    Except Failure Path :=
  search workspace.holds (workspace.nodes.items.length + 1) directory name

end OutputName

end ListingAtlas
