/-!
What a run has to say about itself.
-/

namespace ListingAtlas

inductive LogLevel where
  | debug
  | info
  | warning
  | error
deriving DecidableEq, Repr

def LogLevel.name : LogLevel → String
  | .debug => "DEBUG"
  | .info => "INFO"
  | .warning => "WARNING"
  | .error => "ERROR"

structure LogRecord where
  level : LogLevel
  logger : String
  message : String
deriving DecidableEq, Repr

end ListingAtlas
