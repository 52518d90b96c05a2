import ListingAtlas.Json.Reader
import ListingAtlas.Text.Utf8

/-!
The paths that the service answers at. A path comes percent-encoded; it is decoded before anything
is compared with it.
-/

namespace ListingAtlas.Service

open Text (Bytes)

/-! ### Percent-encoding -/

/-- The byte that two hexadecimal digits write. -/
def byteOf? (high low : Char) : Option UInt8 := do
  let high ← Json.hexDigit? high
  let low ← Json.hexDigit? low
  return UInt8.ofNat (16 * high + low)

/-- Every byte that is written with a percent sign; a sign without two digits stands for itself. -/
def percentDecoded : List Char → Bytes
  | [] => []
  | '%' :: high :: low :: rest =>
      match byteOf? high low with
      | some byte => byte :: percentDecoded rest
      | none => Text.encodeUtf8 "%" ++ percentDecoded (high :: low :: rest)
  | character :: rest => Text.encodeUtf8 (String.singleton character) ++ percentDecoded rest

/-- A path as it is meant; ill-formed parts are replaced. -/
def decodePath (path : String) : String :=
  Text.decodeUtf8 (percentDecoded path.toList)

/-! ### Routes -/

inductive Route where
  | correlations
  | render (key : String)
  | formats
  | health
deriving DecidableEq, Repr

def Route.method : Route → String
  | .correlations => "POST"
  | .render _ => "POST"
  | .formats => "GET"
  | .health => "GET"

def fixedRoutes : List (String × Route) :=
  [("/correlations", .correlations), ("/formats", .formats), ("/health", .health)]

def renderPath : String := "/correlations/render/"

/-- The key of a view is one name: not empty, and without a slash. -/
def renderKey? (path : String) : Option String :=
  if renderPath.toList.isPrefixOf path.toList then
    let key := path.toList.drop renderPath.length
    if key.isEmpty || key.contains '/' then none else some (String.ofList key)
  else none

/-- The route of a decoded path; one line feed may end a path that is fixed. -/
def route? (path : String) : Option Route :=
  match fixedRoutes.find? fun item => path == item.1 || path == item.1 ++ "\n" with
  | some item => some item.2
  | none => (renderKey? path).map .render

/-- A path without the slashes at its end. -/
def withoutSlashes (path : String) : String :=
  String.ofList (path.toList.reverse.dropWhile (· == '/')).reverse

/-- The path that is meant where only slashes at the end are too many. -/
def redirection? (path : String) : Option String :=
  let shorter := withoutSlashes path
  if path != shorter && (route? shorter).isSome then some shorter else none

end ListingAtlas.Service
