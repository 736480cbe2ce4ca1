import TypeShape.Catalog.CommandLine
import TypeShape.Log.Filter

/-!
# Running a command line

What a command line prints, how it exits and what it logs, as a function of the catalog, the
arguments and the log filter.

* `Console.perform`: a command on a catalog. Main statement: `code_perform_le_one`, it exits with
  code 0 or 1.
* `Console.run`: a command line. A misused one exits with code 2 and says nothing here. Main
  statements: `code_run_eq_two_iff`, no other one does; `allows_of_mem_logs_run`, what is logged has
  passed the filter.
-/

namespace TypeShape

/-- What a command does to the outside. -/
structure Console where
  code : Nat := 0
  stdout : String := ""
  stderr : String := ""
  logs : List LogRecord := []
  format : LogFormat := .text

namespace Console

/-- A text, filled up with blanks to a width. -/
def padTo (width : Nat) (s : String) : String :=
  s ++ String.ofList (List.replicate (width - s.length) ' ')

def listLine (entry : Entry) : String := padTo 26 entry.name ++ " " ++ entry.summary

def logOf (entry : Entry) : List LogRecord := entry.build.events.map Event.record

/-- The record of a finished catalog. -/
def catalogRecord (entries failures : Nat) : LogRecord :=
  ⟨.info, "tokenctl",
    [("message", .text "built catalog"), ("entries", .count entries),
     ("failures", .count failures)]⟩

def perform (catalog : Catalog) : Command → Console
  | .list => { stdout := Report.lines (catalog.map listLine) }
  | .show name style =>
    match catalog.find? name with
    | none =>
      { code := 1
        stderr := "error: unknown catalog entry '" ++ name ++ "' (see \x60tokenctl list\x60)\n" }
    | some entry =>
      let report := Report.ofEntry entry
      if report.isFailure then
        { code := 1
          stdout := Report.print style [report]
          stderr := "error: catalog entry '" ++ name ++ "' failed to build\n"
          logs := logOf entry }
      else { stdout := Report.print style [report], logs := logOf entry }
  | .catalog style =>
    let reports := catalog.map Report.ofEntry
    { stdout := Report.print style reports
      logs := catalog.flatMap logOf ++
        [catalogRecord reports.length (reports.countP Report.isFailure)] }

theorem code_perform_le_one (catalog : Catalog) (command : Command) :
    (perform catalog command).code ≤ 1 := by
  cases command with
  | list => exact Nat.zero_le 1
  | «show» name style =>
    unfold perform
    dsimp only
    split
    · exact Nat.le_refl 1
    · split
      · exact Nat.le_refl 1
      · exact Nat.zero_le 1
  | catalog style => exact Nat.zero_le 1

/-- A command line, with the log passed through a filter. -/
def run (catalog : Catalog) (args : List String) (filter : LogFilter) : Console :=
  match Invocation.read? args with
  | none => { code := 2 }
  | some .version => { stdout := "tokenctl 0.1.0\n" }
  | some (.run format command) =>
    let console := perform catalog command
    { console with logs := console.logs.filter filter.allows, format := format }

theorem code_run_eq_two_iff (catalog : Catalog) (args : List String) (filter : LogFilter) :
    (run catalog args filter).code = 2 ↔ Invocation.read? args = none := by
  unfold run
  split
  next h => simp [h]
  next h => simp [h]
  next format command h =>
    have hcode := code_perform_le_one catalog command
    simp only [h, reduceCtorEq, iff_false]
    omega

theorem allows_of_mem_logs_run {catalog : Catalog} {args : List String} {filter : LogFilter}
    {record : LogRecord} (h : record ∈ (run catalog args filter).logs) :
    filter.allows record = true := by
  unfold run at h
  split at h
  · cases h
  · cases h
  · exact (List.mem_filter.1 h).2

end Console

end TypeShape
