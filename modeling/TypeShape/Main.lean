import TypeShape.Catalog.Console

/-!
# The program

The outer layer of the command line: it reads the arguments and the log filter, runs the command and
prints what it says.
-/

namespace TypeShape

/-- The value of a field in JSON. -/
def FieldValue.toJson : FieldValue → Json
  | .text s => .string s
  | .count n => .number n

/-- The value of a field as text. -/
def FieldValue.toText : FieldValue → String
  | .text s => s
  | .count n => toString n

/-- A record as a line of the log. -/
def LogRecord.line : LogFormat → LogRecord → String
  | .json, r =>
    (Json.object
      [("level", .string r.level.label),
       ("fields", .object (r.fields.map fun f => (f.1, f.2.toJson))),
       ("target", .string r.target)]).render
  | .text, r =>
    r.level.label ++ " " ++ r.target ++ ":" ++
      String.join (r.fields.map fun f =>
        if f.1 == "message" then " " ++ f.2.toText else " " ++ f.1 ++ "=" ++ f.2.toText)

end TypeShape

open TypeShape in
/-- Runs the command line and exits with its code. -/
def main (args : List String) : IO UInt32 := do
  let filter := LogFilter.ofSetting (← IO.getEnv "RUST_LOG")
  let console := Console.run Catalog.standard args filter
  for record in console.logs do
    IO.eprintln (record.line console.format)
  IO.print console.stdout
  IO.eprint console.stderr
  return UInt32.ofNat console.code
