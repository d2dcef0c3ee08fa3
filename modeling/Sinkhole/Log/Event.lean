/-!
# Events

What a component has to tell the operator is an event: a level, a message and
named values. Components return their events in order; writing them out is the
business of the program around them.
-/

namespace Sinkhole
namespace Log

/-- How much an event matters, the least first. -/
inductive Level
  | trace
  | debug
  | info
  | warn
  | error
  deriving DecidableEq

namespace Level

/-- The rank of a level. -/
def rank : Level → Nat
  | .trace => 0
  | .debug => 1
  | .info => 2
  | .warn => 3
  | .error => 4

/-- The name of a level in a log. -/
def text : Level → String
  | .trace => "TRACE"
  | .debug => "DEBUG"
  | .info => "INFO"
  | .warn => "WARN"
  | .error => "ERROR"

end Level

/-- A value that an event carries. -/
inductive Value
  | text (value : String)
  | number (value : Nat)
  | flag (value : Bool)
  deriving DecidableEq

/-- A value as text. -/
def Value.toText : Value → String
  | .text value => value
  | .number value => toString value
  | .flag value => if value then "true" else "false"

/-- Something that happened. -/
structure Event where
  level : Level
  message : String
  fields : List (String × Value) := []
  deriving DecidableEq

/-- Whether an event is written out when events below `least` are not. -/
def Event.isShown (least : Level) (event : Event) : Bool :=
  least.rank ≤ event.level.rank

end Log
end Sinkhole
