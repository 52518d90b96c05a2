import ListingAtlas.Correlation.Assembly
import ListingAtlas.Service.Echo
import ListingAtlas.Service.Reply
import ListingAtlas.Service.Route
import ListingAtlas.Text.Disguise
import ListingAtlas.View

/-!
Answering requests. Nothing is kept between them. What is submitted may hold halves of surrogate
pairs; they are disguised while it is correlated, and a reply cannot tell them.
-/

namespace ListingAtlas.Service

open Text (Disguise EditorText)

structure Request where
  method : String
  /-- The path as it was sent. -/
  path : String
  body : String
deriving DecidableEq, Repr

def version : String := "0.1.0"

/-! ### Correlations -/

/-- A submission in disguise. -/
structure Disguised where
  disguise : Disguise
  texts : Submission String

def Disguised.of (submission : Submission EditorText) : Disguised :=
  let disguise := Disguise.choose submission.toList
  { disguise, texts := submission.map disguise.putOn }

/-- A reason that may name something submitted. -/
def reasonReply (disguise : Disguise) (status : Nat) (text : String) : Reply :=
  if disguise.isWornIn text then .breakdown .untellable else Reply.reason status text

/-- Why there is no correlation, as a reply. -/
def failureReply (disguise : Disguise) (failure : Failure) : Reply :=
  match failure with
  | .malformedDirective position line =>
      Reply.reason 422 (Failure.directiveMessage position (disguise.takeOff line).quoted)
  | _ => .breakdown failure

def correlateSubmission (environment : Environment) (submission : Disguised) :
    Except Reply Correlation :=
  let texts := submission.texts
  match Listing.findDialect texts.dialect with
  | .error failure => .error (reasonReply submission.disguise 400 failure.message)
  | .ok dialect =>
      match loadPalette environment with
      | .error failure => .error (.breakdown failure)
      | .ok palette =>
          (correlate dialect (Presentation.configured environment palette) texts.listing
            texts.target texts.source texts.sourceName).mapError
              (failureReply submission.disguise)

def correlationDocument (correlation : Correlation) : Json String :=
  .record
    [("source_file", .text correlation.sourceName), ("empty", .bool correlation.isEmpty),
     ("entries", .list (correlation.entries.map View.Document.entryRecord))]

/-- The texts of the document, in its order. -/
def documentTexts (correlation : Correlation) : List String :=
  correlation.sourceName :: correlation.entries.flatMap fun entry =>
    [entry.sourceText, entry.assemblyText, entry.displayColor]

def documentReply (disguise : Disguise) (correlation : Correlation) : Reply :=
  match (documentTexts correlation).findSome? fun text => (disguise.takeOff text).loneHalves? with
  | some halves => .breakdown (.unwritable halves)
  | none => .document 200 (correlationDocument correlation)

def answerCorrelation (environment : Environment) (submission : Submission EditorText) : Reply :=
  let disguised := Disguised.of submission
  match correlateSubmission environment disguised with
  | .error reply => reply
  | .ok correlation => documentReply disguised.disguise correlation

/-! ### Files -/

def defaultStem : String := "source"

/-- A name before its last dot, or all of it if there is none. -/
def beforeLastDot (name : String) : String :=
  match name.toList.reverse.dropWhile (· != '.') with
  | _ :: before => String.ofList before.reverse
  | [] => name

def stemOf (sourceName : String) : String :=
  let stem := beforeLastDot sourceName
  if stem.isEmpty then defaultStem else stem

def fileName (sourceName : String) (view : View) : String :=
  stemOf sourceName ++ view.suffix

/-- Headers hold characters of one byte only. -/
def fitsHeader (text : String) : Bool :=
  text.toList.all fun character => character.toNat < 256

def fileReply (disguise : Disguise) (view : View) (correlation : Correlation) : Reply :=
  let name := fileName correlation.sourceName view
  let content := view.content correlation
  if disguise.isWornIn content then .breakdown .untellable
  else if fitsHeader name then .file view.mediaType name content
  else .breakdown (.unheadable name)

def answerRender (environment : Environment) (key : String) (submission : Submission EditorText) :
    Reply :=
  match View.find? key with
  | none =>
      Reply.reason 400 ("Unknown output format '" ++ key ++ "'. Available: " ++
        View.availableKeys)
  | some view =>
      let disguised := Disguised.of submission
      match correlateSubmission environment disguised with
      | .error reply => reply
      | .ok correlation => fileReply disguised.disguise view correlation

/-! ### Other documents -/

def viewRecord (view : View) : Json String :=
  .record
    [("key", .text view.key), ("name", .text view.name), ("suffix", .text view.suffix),
     ("media_type", .text view.mediaType)]

def formatsDocument : Json String :=
  .list (View.sorted.map viewRecord)

def healthDocument : Json String :=
  .record [("status", .text "ok"), ("version", .text version)]

/-! ### Requests -/

/-- A refusal, unless what it would repeat cannot be told. -/
def refuse (findings : List Finding) : Reply :=
  match Echo.failure? findings with
  | some failure => .breakdown failure
  | none => .refusal (findings.map Finding.problem)

def withSubmission (body : String) (answer : Submission EditorText → Reply) : Reply :=
  match Submission.read body with
  | .ok submission => answer submission
  | .error .unreadable => Reply.reason 400 "There was an error parsing the body"
  | .error (.invalid findings) => refuse findings

def answerRoute (environment : Environment) (body : String) : Route → Reply
  | .correlations => withSubmission body (answerCorrelation environment)
  | .render key => withSubmission body (answerRender environment key)
  | .formats => .document 200 formatsDocument
  | .health => .document 200 healthDocument

def answer (environment : Environment) (request : Request) : Reply :=
  let path := decodePath request.path
  match route? path with
  | some route =>
      if request.method == route.method then answerRoute environment request.body route
      else Reply.reason 405 "Method Not Allowed"
  | none =>
      match redirection? path with
      | some shorter => .redirect shorter
      | none => Reply.reason 404 "Not Found"

end ListingAtlas.Service
