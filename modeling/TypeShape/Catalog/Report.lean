import TypeShape.Catalog.Basic
import TypeShape.Diagnostic.Encode

/-!
# Reports on catalog entries

A report says how the construction of an entry ended, as a line of text or as a JSON object. Several
reports are written one after the other: a line each, or one JSON array; a single report in JSON is
its object alone. Main statement: `lines_append`, lines of text follow each other.
-/

namespace TypeShape

/-- How reports are written. -/
structure ReportStyle where
  /-- JSON instead of text. -/
  json : Bool := false
  /-- In text, paths instead of short names. -/
  fullPaths : Bool := false
  deriving DecidableEq

/-- How the construction of an entry ended. -/
structure Report where
  name : String
  /-- What was to be built. -/
  summary : String
  /-- What was built, or why nothing was. -/
  outcome : Except DescribeError (Descriptor Symbol)

namespace Report

def ofEntry (entry : Entry) : Report := ⟨entry.name, entry.summary, entry.build.outcome⟩

/-- Nothing was built. -/
def isFailure (report : Report) : Bool :=
  match report.outcome with
  | .ok _ => false
  | .error _ => true

def line (fullPaths : Bool) (report : Report) : String :=
  report.name ++ ": " ++
    match report.outcome with
    | .ok d => d.render (if fullPaths then .full else .short)
    | .error e => "error: " ++ e.message

def toJson (report : Report) : Json :=
  .object [("name", .string report.name), ("summary", .string report.summary),
    match report.outcome with
    | .ok d => ("token", d.toJson)
    | .error e => ("error", e.toJson)]

/-- The JSON value of several reports. -/
def jsonOf : List Report → Json
  | [report] => report.toJson
  | reports => .array (reports.map toJson)

/-- Each text on a line of its own. -/
def lines : List String → String
  | [] => ""
  | s :: ss => s ++ "\n" ++ lines ss

theorem lines_append (ss ts : List String) : lines (ss ++ ts) = lines ss ++ lines ts := by
  induction ss with
  | nil => simp [lines]
  | cons s ss ih => simp [lines, ih, String.append_assoc]

/-- Reports as they are printed. -/
def print (style : ReportStyle) (reports : List Report) : String :=
  if style.json then lines [(jsonOf reports).pretty] else lines (reports.map (line style.fullPaths))

end Report

end TypeShape
