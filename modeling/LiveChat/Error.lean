/-!
# What can go wrong

The causes that the library tells apart, and the words in which each is reported.
-/

namespace LiveChat

/-- A failed operation, with the details that its report shows. -/
inductive Failure where
  | database (detail : String)
  | io (detail : String)
  | json (detail : String)
  | config (detail : String)
  | notFound (detail : String)
  | invalidInput (detail : String)
  | internal (detail : String)
deriving DecidableEq, Repr

namespace Failure

def kind : Failure → String
  | .database _ => "Database"
  | .io _ => "Io"
  | .json _ => "Json"
  | .config _ => "Config"
  | .notFound _ => "NotFound"
  | .invalidInput _ => "InvalidInput"
  | .internal _ => "Internal"

def message : Failure → String
  | .database detail => "Database error: " ++ detail
  | .io detail => "IO error: " ++ detail
  | .json detail => "JSON error: " ++ detail
  | .config detail => "Configuration error: " ++ detail
  | .notFound detail => "Not found: " ++ detail
  | .invalidInput detail => "Invalid input: " ++ detail
  | .internal detail => "Internal error: " ++ detail

end Failure

abbrev Result (α : Type) : Type := Except Failure α

/-- A failure on the way to or from a viewer: one of the library's own, or one of serving. -/
inductive ServeFailure where
  | failure (cause : Failure)
  | io (detail : String)
  | json (detail : String)
  | forbidden (detail : String)
  | internal (detail : String)
deriving DecidableEq, Repr

namespace ServeFailure

def message : ServeFailure → String
  | .failure cause => cause.message
  | .io detail => "IO error: " ++ detail
  | .json detail => "JSON error: " ++ detail
  | .forbidden detail => "Forbidden: " ++ detail
  | .internal detail => "Internal error: " ++ detail

end ServeFailure

end LiveChat
