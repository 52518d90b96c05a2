import ListingAtlas.Number.Binary64

/-!
JSON values. The kind of text is a parameter: documents that are written hold strings, documents
that are read hold whatever an editor sends.
-/

namespace ListingAtlas

inductive Json (Text : Type) where
  | null
  | bool (value : Bool)
  | int (value : Int)
  | real (value : Number.Binary64)
  | text (value : Text)
  | list (items : List (Json Text))
  | record (fields : List (Text × Json Text))

namespace Json

variable {Text : Type}

/-- The value of a field; of several with one name the last counts. -/
def field? [DecidableEq Text] (fields : List (Text × Json Text)) (name : Text) :
    Option (Json Text) :=
  (fields.reverse.find? fun item => item.1 = name).map Prod.snd

def text? : Json Text → Option Text
  | .text value => some value
  | _ => none

def int? : Json Text → Option Int
  | .int value => some value
  | _ => none

def list? : Json Text → Option (List (Json Text))
  | .list items => some items
  | _ => none

def record? : Json Text → Option (List (Text × Json Text))
  | .record fields => some fields
  | _ => none

mutual

/-- The whole numbers of a document, in order. -/
def integers : Json Text → List Int
  | .int value => [value]
  | .list items => integersOfItems items
  | .record fields => integersOfFields fields
  | _ => []

def integersOfItems : List (Json Text) → List Int
  | [] => []
  | item :: items => integers item ++ integersOfItems items

def integersOfFields : List (Text × Json Text) → List Int
  | [] => []
  | (_, item) :: fields => integers item ++ integersOfFields fields

end

end Json

end ListingAtlas
