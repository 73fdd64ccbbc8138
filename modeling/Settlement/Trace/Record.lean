/-!
# Trace records

The form in which events are shown: a name, a level and named fields.  A span is a stretch of a run
that is entered and left again.
-/

namespace Settlement.Trace

/-- How important an event is. -/
inductive Level where
  | trace
  | debug
  | info
  | warn
deriving DecidableEq

/-- The word for a level. -/
def Level.word : Level → String
  | .trace => "TRACE"
  | .debug => "DEBUG"
  | .info => "INFO"
  | .warn => "WARN"

/-- The value of a field. -/
inductive Value where
  | text (s : String)
  | flag (b : Bool)
  | count (n : Nat)
deriving DecidableEq

/-- The fields of an event, by name. -/
abbrev Fields :=
  List (String × Value)

/-- An event as it is shown. -/
inductive Record where
  | event (name : String) (level : Level) (fields : Fields)
  | span (name : String) (level : Level) (fields : Fields)
  | enter
  | leave
deriving DecidableEq

/-- A field that is left out when it has no value. -/
def given (name : String) (value : Option String) : Fields :=
  match value with
  | some s => [(name, .text s)]
  | none => []

end Settlement.Trace
