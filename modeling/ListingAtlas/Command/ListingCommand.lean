/-!
Turning a compile command into one that writes a listing: its output and debug options go, its
source argument goes, and the options for the listing and the temporary source come.
-/

namespace ListingAtlas.Command

/-- Options that name an output; with nothing attached the next argument is its name. -/
def outputFlags : List String := ["Fo", "Fd", "Fm", "Fa", "Fp", "Fe", "Fr", "Fi"]

def debugFlags : List String := ["Zi", "Z7"]

def isFlag (flag argument : String) : Bool :=
  ('-' :: flag.toList).isPrefixOf argument.toList || ('/' :: flag.toList).isPrefixOf argument.toList

/-- An option that is nothing but its flag. -/
def isDetached (flag argument : String) : Bool :=
  argument.length == flag.length + 1

/-- The arguments without an option, and without its value if it takes a detached one. -/
def removeFlag (flag : String) (takesValue : Bool) : List String → List String
  | [] => []
  | argument :: rest =>
      if isFlag flag argument then
        if takesValue && isDetached flag argument then
          match rest with
          | [] => []
          | _ :: after => removeFlag flag takesValue after
        else removeFlag flag takesValue rest
      else argument :: removeFlag flag takesValue rest

def removeFlags (flags : List String) (takesValue : Bool) (arguments : List String) :
    List String :=
  flags.foldl (fun arguments flag => removeFlag flag takesValue arguments) arguments

/-- The option that only compiles; one line feed may end it. -/
def isCompileOnly (argument : String) : Bool :=
  argument == "-c" || argument == "/c" || argument == "-c\n" || argument == "/c\n"

/-- The arguments without the first option that only compiles and the source behind it. -/
def removeSource : List String → List String
  | [] => []
  | argument :: rest =>
      if isCompileOnly argument then rest.drop 1 else argument :: removeSource rest

def keptArguments (arguments : List String) : List String :=
  removeSource (removeFlags debugFlags false (removeFlags outputFlags true arguments))

def listingArguments (arguments : List String) (listing temporary : String) : List String :=
  ["/FAs", "/Fa" ++ listing, "/Fo" ++ listing ++ ".obj"] ++ keptArguments arguments ++
    ["-c", temporary]

end ListingAtlas.Command
