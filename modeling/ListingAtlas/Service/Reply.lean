import ListingAtlas.Failure
import ListingAtlas.Json
import ListingAtlas.Service.Submission

/-!
What the service replies.
-/

namespace ListingAtlas.Service

inductive Reply where
  | document (status : Nat) (content : Json String)
  | refusal (problems : List Problem)
  | file (mediaType name content : String)
  | redirect (path : String)
  /-- A failure that nothing in the service answers for. -/
  | breakdown (failure : Failure)

namespace Reply

def status : Reply → Nat
  | .document status _ => status
  | .refusal _ => 422
  | .file .. => 200
  | .redirect _ => 307
  | .breakdown _ => 500

/-- Only texts tell how they are encoded. -/
def withCharset (mediaType : String) : String :=
  if "text/".toList.isPrefixOf mediaType.toList then mediaType ++ "; charset=utf-8" else mediaType

def contentType? : Reply → Option String
  | .document .. => some "application/json"
  | .refusal _ => some "application/json"
  | .file mediaType .. => some (withCharset mediaType)
  | .redirect _ => none
  | .breakdown _ => some (withCharset "text/plain")

def dispositionOf (name : String) : String :=
  "attachment; filename=\"" ++ name ++ "\""

/-- The header that names a file to save. -/
def disposition? : Reply → Option String
  | .file _ name _ => some (dispositionOf name)
  | _ => none

def breakdownText : String := "Internal Server Error"

/-- A reason as a document. -/
def reason (status : Nat) (text : String) : Reply :=
  .document status (.record [("detail", .text text)])

end Reply

end ListingAtlas.Service
