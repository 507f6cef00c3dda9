/-!
# Log events

What the program reports about its work, apart from its results.
-/

namespace KnxExport.Log

/-- How important an event is. -/
inductive Level where
  | error
  | warn
  | info
  | debug
  | trace
  deriving DecidableEq, Repr

/-- The levels in numbers: the more important, the lower. -/
def Level.rank : Level → Nat
  | .error => 1
  | .warn => 2
  | .info => 3
  | .debug => 4
  | .trace => 5

/-- The name of a level in a log line. -/
def Level.label : Level → String
  | .error => "ERROR"
  | .warn => "WARN"
  | .info => "INFO"
  | .debug => "DEBUG"
  | .trace => "TRACE"

/-- Something that happened. -/
structure Event where
  level : Level
  /-- The part of the program that reports it. -/
  target : String
  message : String
  /-- Named values, as they are shown. -/
  fields : List (String × String)
  deriving DecidableEq, Repr

namespace Event

/-- The names of an event's values; its message counts as one of them. -/
def fieldNames (event : Event) : List String :=
  "message" :: event.fields.map Prod.fst

/-- The event as a line of the log. -/
def line (event : Event) : String :=
  let fields := event.fields.map fun field => " " ++ field.1 ++ "=" ++ field.2
  event.level.label ++ " " ++ event.target ++ ": " ++ event.message ++ String.join fields ++ "\n"

end Event

end KnxExport.Log
