import ListingAtlas.Text.Quoted

/-!
The token of a trigger, which is cancelled as soon as a newer trigger for its key arrives.
-/

namespace ListingAtlas.Session

structure Token where
  key : String
  generation : Int
  cancelled : Bool
deriving DecidableEq, Repr

def Token.issue (key : String) (generation : Int) : Token :=
  { key, generation, cancelled := false }

def Token.cancel (token : Token) : Token :=
  { token with cancelled := true }

def Token.description (token : Token) : String :=
  "CancellationToken(key=" ++ Text.quoted token.key ++ ", generation=" ++
    toString token.generation ++ ", cancelled=" ++
    (if token.cancelled then "True" else "False") ++ ")"

end ListingAtlas.Session
