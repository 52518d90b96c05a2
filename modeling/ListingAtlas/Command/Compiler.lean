import ListingAtlas.Text.Digit
import ListingAtlas.Text.Lowercase

/-!
Recognising a compiler by the name of its program.
-/

namespace ListingAtlas.Command

inductive CompilerFamily where
  | msvc
  | gcc
  | unknown
deriving DecidableEq, Repr

def CompilerFamily.name : CompilerFamily → String
  | .msvc => "msvc"
  | .gcc => "gcc"
  | .unknown => "unknown"

/-! ### Windows file names -/

def windowsSeparators (path : List Char) : List Char :=
  path.map fun character => if character == '/' then '\\' else character

/-- What stands behind the first backslash, if there is one. -/
def afterBackslash? : List Char → Option (List Char)
  | [] => none
  | '\\' :: rest => some rest
  | _ :: rest => afterBackslash? rest

/-- The rest of a name from the first backslash on; nothing if there is none. -/
def fromBackslash (path : List Char) : List Char :=
  path.dropWhile (· != '\\')

def longShareMark : List Char := "\\\\?\\unc\\".toList

/-- What follows the host and the share of a network path. -/
def afterShare (hostAndShare : List Char) : List Char :=
  match fromBackslash hostAndShare with
  | [] => []
  | _ :: share => fromBackslash share

/-- A path without its drive: a letter and a colon, or a host and a share. -/
def withoutDrive (path : List Char) : List Char :=
  match path with
  | '\\' :: '\\' :: rest =>
      if path.take 8 |>.map Char.toUpper |> (· == longShareMark.map Char.toUpper) then
        afterShare (path.drop 8)
      else afterShare rest
  | _ :: ':' :: rest => rest
  | _ => path

/-- The part of a path behind its last backslash, the drive set aside. -/
def fileName (path : List Char) : List Char :=
  ((withoutDrive path).reverse.takeWhile (· != '\\')).reverse

/-! ### Programs -/

def withoutSuffix? (suffix name : List Char) : Option (List Char) :=
  if suffix.isSuffixOf name then some (name.take (name.length - suffix.length)) else none

def isVersionChar (character : Char) : Bool :=
  character == '.' || Text.isDigit character

/-- A name without a version at its end: a hyphen, and digits and points behind it. -/
def withoutVersion? (name : List Char) : Option (List Char) :=
  let version := name.reverse.takeWhile isVersionChar
  match name.reverse.dropWhile isVersionChar with
  | '-' :: before => if version.isEmpty then none else some before.reverse
  | _ => none

def orWithout (shorten : List Char → Option (List Char)) (name : List Char) : List (List Char) :=
  name :: (shorten name).toList

def gccNames : List String := ["gcc", "g++", "clang", "clang++"]

/-- A name of the family ends with one of its programs, then perhaps a version, then perhaps the
suffix of an executable, then perhaps one line feed. -/
def isGccName (name : List Char) : Bool :=
  let candidates := (orWithout (withoutSuffix? ['\n']) name).flatMap fun name =>
    (orWithout (withoutSuffix? ".exe".toList) name).flatMap (orWithout withoutVersion?)
  candidates.any fun candidate => gccNames.any fun program => program.toList.isSuffixOf candidate

def detectCompiler (program : String) : CompilerFamily :=
  let name := Text.lowercaseChars (fileName (windowsSeparators program.toList))
  if "cl.exe".toList.isSuffixOf name || name == "cl".toList then .msvc
  else if isGccName name then .gcc
  else .unknown

end ListingAtlas.Command
