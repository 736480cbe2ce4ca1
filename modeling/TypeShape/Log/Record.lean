/-!
# Log records

A record carries a level, a target and named fields. Levels are ordered by how much detail they
stand for, from errors to traces.
-/

namespace TypeShape

/-- How much detail a record stands for. -/
inductive Level where
  | error
  | warn
  | info
  | debug
  | trace
  deriving DecidableEq

namespace Level

/-- The place of a level in the order of detail. -/
def detail : Level → Nat
  | .error => 1
  | .warn => 2
  | .info => 3
  | .debug => 4
  | .trace => 5

/-- The name of a level in a record. -/
def label : Level → String
  | .error => "ERROR"
  | .warn => "WARN"
  | .info => "INFO"
  | .debug => "DEBUG"
  | .trace => "TRACE"

end Level

/-- The value of a field. -/
inductive FieldValue where
  | text (value : String)
  | count (value : Nat)
  deriving DecidableEq

/-- One line of the log. -/
structure LogRecord where
  /-- How much detail the record stands for. -/
  level : Level
  /-- Which part of the program wrote it. -/
  target : String
  /-- The named fields; the one named `message` says what happened. -/
  fields : List (String × FieldValue)
  deriving DecidableEq

end TypeShape
