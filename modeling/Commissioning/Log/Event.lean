set_option autoImplicit false

/-! # Log events

What the tool writes down about its work: a level, the part of the tool that speaks, a message and
named values. -/

namespace Commissioning.Log

/-- How much an event matters, the most important first. -/
inductive Level where
  | error
  | warn
  | info
  | debug
  | trace
  deriving DecidableEq, Repr

/-- The name of a level. -/
def Level.name : Level → String
  | error => "ERROR"
  | warn => "WARN"
  | info => "INFO"
  | debug => "DEBUG"
  | trace => "TRACE"

/-- The place of a level in the order of importance, from one on. -/
def Level.rank : Level → Nat
  | error => 1
  | warn => 2
  | info => 3
  | debug => 4
  | trace => 5

/-- A named value of an event. A value may be shown between quotes on a log line. -/
structure Field where
  name : String
  value : String
  isQuoted : Bool := false
  deriving DecidableEq, Repr

/-- Something written down. -/
structure Event where
  level : Level
  /-- The part of the tool that speaks. -/
  source : String
  message : String
  fields : List Field := []
  deriving DecidableEq, Repr

end Commissioning.Log
