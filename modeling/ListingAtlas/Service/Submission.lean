import ListingAtlas.Json.Reader
import ListingAtlas.Listing.Msvc
import ListingAtlas.Text.WideUnits

/-!
What is submitted for correlation: a record of texts. All of its fields are looked at, so that
every problem is found at once, and a problem repeats the value that it was found in.
-/

namespace ListingAtlas.Service

open Text (EditorText)

/-- A submission, in texts of a kind. -/
structure Submission (Kind : Type) where
  listing : Kind
  target : Kind
  source : Kind
  sourceName : Kind
  dialect : Kind
deriving DecidableEq, Repr

/-! ### Problems -/

inductive Problem where
  | malformedBody
  | missingBody
  | notRecord
  | missingField (name : String)
  | notText (name : String)
deriving DecidableEq, Repr

namespace Problem

def kind : Problem → String
  | .malformedBody => "json_invalid"
  | .missingBody => "missing"
  | .notRecord => "model_attributes_type"
  | .missingField _ => "missing"
  | .notText _ => "string_type"

/-- Where a problem is, from the outside to the inside. -/
def place : Problem → List String
  | .malformedBody => ["body"]
  | .missingBody => ["body"]
  | .notRecord => ["body"]
  | .missingField name => ["body", name]
  | .notText name => ["body", name]

end Problem

/-- A problem, and the value that it is found in. -/
structure Finding where
  problem : Problem
  value : Json EditorText

inductive Rejection where
  /-- A body that is no text, or is JSON that cannot be held. -/
  | unreadable
  | invalid (findings : List Finding)

/-! ### Fields -/

abbrev Checked (Value : Type) := Except (List Finding) Value

/-- What is found wrong with both, or none of either. -/
def Checked.apply {First Second : Type} (function : Checked (First → Second))
    (value : Checked First) : Checked Second :=
  match function, value with
  | .ok function, .ok value => .ok (function value)
  | .ok _, .error findings => .error findings
  | .error findings, .ok _ => .error findings
  | .error findings, .error others => .error (findings ++ others)

abbrev Fields := List (EditorText × Json EditorText)

/-- The text of a field. A field without a default has to be there. -/
def textField (fields : Fields) (name : String) (default : Option String) : Checked EditorText :=
  match Json.field? fields (EditorText.ofString name) with
  | none =>
      match default with
      | some text => .ok (EditorText.ofString text)
      | none => .error [⟨.missingField name, .record fields⟩]
  | some (.text value) => .ok value
  | some value => .error [⟨.notText name, value⟩]

def defaultSourceName : String := "source.c"

namespace Submission

def map {First Second : Type} (change : First → Second) (submission : Submission First) :
    Submission Second :=
  { listing := change submission.listing
    target := change submission.target
    source := change submission.source
    sourceName := change submission.sourceName
    dialect := change submission.dialect }

def toList {Kind : Type} (submission : Submission Kind) : List Kind :=
  [submission.listing, submission.target, submission.source, submission.sourceName,
   submission.dialect]

def ofFields (fields : Fields) : Checked (Submission EditorText) :=
  let listing := textField fields "listing_text" none
  let target := textField fields "target_file_path" none
  let source := textField fields "source_text" none
  let sourceName := textField fields "source_filename" (some defaultSourceName)
  let dialect := textField fields "dialect" (some Listing.defaultDialect)
  ((((Checked.apply (.ok mk) listing).apply target).apply source).apply sourceName).apply dialect

/-! ### Bodies -/

def byteOrderMark : Char := '\uFEFF'

/-- A text without the mark that may begin it. -/
def withoutMark (body : String) : String :=
  match body.toList with
  | first :: rest => if first == byteOrderMark then String.ofList rest else body
  | [] => body

/-- The text of a body, the bytes of which may turn out to be wider units. -/
def textOf? (body : String) : Option EditorText :=
  let bytes := Text.encodeUtf8 body
  match Text.WideUnits.recognize? bytes with
  | some units => units.decode? bytes
  | none => some (EditorText.ofString (withoutMark body))

/-- How deep lists and records may hold each other in a body. -/
def deepest : Nat := 965

def ofValue (value : Json EditorText) : Except Rejection (Submission EditorText) :=
  match value with
  | .record fields => (ofFields fields).mapError .invalid
  | value => .error (.invalid [⟨.notRecord, value⟩])

def read (body : String) : Except Rejection (Submission EditorText) :=
  if body.isEmpty then .error (.invalid [⟨.missingBody, .null⟩])
  else
    match textOf? body with
    | none => .error .unreadable
    | some text =>
        match Json.read deepest text with
        | .ok value => ofValue value
        | .error .malformed => .error (.invalid [⟨.malformedBody, .record []⟩])
        | .error .numeralTooLong => .error .unreadable
        | .error .tooDeep => .error .unreadable

end Submission

end ListingAtlas.Service
