/-!
What can go wrong, in seven categories. Each module names its own causes and says with an
`error` function which category a cause belongs to and how it is worded.
-/

namespace Perimeter

/-- A failure, by category. -/
inductive Error where
  /-- The settings could not be loaded; `sourced` when another failure lies beneath. -/
  | config (message : String) (sourced : Bool)
  /-- Two options that exclude each other were both set. -/
  | conflict (first second message : String)
  /-- One value is malformed; `field` names the setting when it is known. -/
  | validation (message : String) (field : Option String)
  /-- A structural limit of routing or of a stack would be broken. -/
  | constraint (message : String)
  /-- One region lacks something that another needs from it. -/
  | crossRegion (message : String)
  /-- A value could not be written out or read in. -/
  | serialization (context : String)
  /-- A file could not be read or written. -/
  | io (context : String)
deriving DecidableEq, Repr, Inhabited

namespace Error

/-- The stable name of a category. -/
def category : Error → String
  | config .. => "config"
  | conflict .. => "conflict"
  | validation .. => "validation"
  | constraint .. => "constraint"
  | crossRegion .. => "cross_region"
  | serialization .. => "serialization"
  | io .. => "io"

/-- The text shown to the operator. -/
def message : Error → String
  | config m _ => "Configuration error: " ++ m
  | conflict a b m => "Configuration conflict between '" ++ a ++ "' and '" ++ b ++ "': " ++ m
  | validation m _ => "Validation error: " ++ m
  | constraint m => "Constraint violation: " ++ m
  | crossRegion m => "Cross-region dependency error: " ++ m
  | serialization c => "Serialization error: " ++ c
  | io c => "I/O error: " ++ c

/-- A failed reading or writing of a file. -/
def ofFile : Error := .io "I/O operation failed"

/-- A failed reading or writing of a JSON text. -/
def ofJson : Error := .serialization "JSON serialization failed"

/-- Says where a failure of input or output happened; the other categories say so themselves. -/
def within (context : String) : Error → Error
  | serialization c => serialization (context ++ ": " ++ c)
  | io c => io (context ++ ": " ++ c)
  | e => e

/-- Names the setting at fault in a validation failure. -/
def onField (field : String) : Error → Error
  | validation m _ => validation m (some field)
  | e => e

/-- No failure of compilation goes away on a second attempt. -/
def retryable : Error → Bool := fun _ => false

/-- Whether another failure lies beneath this one. -/
def sourced : Error → Bool
  | config _ s => s
  | serialization _ => true
  | io _ => true
  | _ => false

end Error

end Perimeter
