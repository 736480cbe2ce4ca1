import Mathlib.Data.List.Nodup
import TypeShape.Catalog.Console
import TypeShape.Proofs.Diagnostic.PrettyReading

/-!
# One entry and the whole catalog

The command that reports on one entry and the one that reports on all of them build the same reports and
write them in the same style, so what the second says is put together from what the first says of each
entry. They differ in how they end: to report on a catalog is no failure, whatever fails in it.

* `Catalog.find?_eq_some_iff`: where names are distinct, an entry is found by its name;
* `Json.StandsAs`: the value that a printed text stands for;
* `Command.AskedBy`: the command lines that ask for a command;
* `ReportsAgree`: how the answers on single entries and on the catalog hang together;
* `Console.answer_perform_show_of_mem`, `Console.answer_perform_show_of_unknown`: what is answered on one
  name; `Console.reportsAgree_perform`, what follows for the two commands.

Main statement: `show_and_catalog_agree`.
-/

namespace TypeShape

/-! ### Finding an entry -/

namespace Catalog

variable {catalog : Catalog} {entry : Entry} {name : String}

theorem find?_eq_none_iff : catalog.find? name = none ↔ ∀ entry ∈ catalog, entry.name ≠ name := by
  simp [find?]

/-- Where names are distinct, an entry is found by its name. -/
theorem find?_eq_some_iff (hnames : (catalog.map (·.name)).Nodup) :
    catalog.find? name = some entry ↔ entry ∈ catalog ∧ entry.name = name := by
  have hmem : ∀ {found}, catalog.find? name = some found → found ∈ catalog ∧ found.name = name :=
    fun h => ⟨List.mem_of_find?_eq_some h, by simpa using List.find?_some h⟩
  constructor
  · exact hmem
  · rintro ⟨hentry, rfl⟩
    cases hfound : catalog.find? entry.name with
    | none => exact absurd rfl (find?_eq_none_iff.1 hfound entry hentry)
    | some found =>
      obtain ⟨hother, hname⟩ := hmem hfound
      rw [List.inj_on_of_nodup_map hnames hother hentry hname]

end Catalog

/-! ### Reports as they are printed -/

/-- **The value that a printed text stands for**: the text is the pretty form of this value, with a line
break behind it, and of no other. -/
def Json.StandsAs (text : String) (j : Json) : Prop := ∀ j' : Json, text = j'.pretty ++ "\n" ↔ j' = j

theorem Json.standsAs_pretty (j : Json) : StandsAs (j.pretty ++ "\n") j := by
  intro j'
  rw [String.append_left_inj, pretty_inj]
  exact eq_comm

namespace Report

variable {style : ReportStyle} {reports : List Report}

theorem lines_singleton (s : String) : lines [s] = s ++ "\n" := by
  simp [lines]

theorem lines_eq_join (ss : List String) : lines ss = String.join (ss.map fun s => lines [s]) := by
  induction ss with
  | nil => rfl
  | cons s ss ih => rw [List.map_cons, String.join_cons, ← ih, ← lines_append]; rfl

theorem print_json (h : style.json = true) (reports : List Report) :
    print style reports = (jsonOf reports).pretty ++ "\n" := by
  rw [print, if_pos h, lines_singleton]

theorem print_text (h : style.json = false) (reports : List Report) :
    print style reports = lines (reports.map (line style.fullPaths)) := by
  rw [print, if_neg (by simp [h])]

/-- Several reports are printed as lines one after the other. -/
theorem print_text_eq_join (h : style.json = false) (reports : List Report) :
    print style reports = String.join (reports.map fun report => print style [report]) := by
  rw [print_text h, lines_eq_join, List.map_map]
  exact congrArg String.join (List.map_congr_left fun report _ => (print_text h [report]).symm)

theorem jsonOf_of_length_ne_one (h : reports.length ≠ 1) :
    jsonOf reports = .array (reports.map toJson) := by
  unfold jsonOf
  split
  · exact absurd rfl h
  · rfl

theorem isFailure_ofEntry_iff {entry : Entry} :
    (ofEntry entry).isFailure = true ↔ ∃ error, entry.build.outcome = .error error := by
  rw [isFailure, ofEntry]
  cases entry.build.outcome <;> simp

section Failed

variable {entry : Entry} {error : DescribeError}

theorem line_ofEntry_of_error (h : entry.build.outcome = .error error) (fullPaths : Bool) :
    (ofEntry entry).line fullPaths = entry.name ++ ": " ++ ("error: " ++ error.message) := by
  rw [line, ofEntry, h]

theorem toJson_ofEntry_of_error (h : entry.build.outcome = .error error) :
    (ofEntry entry).toJson = .object [("name", .string entry.name),
      ("summary", .string entry.summary), ("error", error.toJson)] := by
  rw [toJson, ofEntry, h]

end Failed

end Report

/-! ### Answers -/

/-- What a command line answers: how it exits and what it prints. -/
structure Answer where
  code : Nat
  stdout : String

/-- What is answered by what a command does. -/
def Console.answer (console : Console) : Answer := ⟨console.code, console.stdout⟩

/-- The command line asks for the command, in whatever way and with whatever log format. -/
def Command.AskedBy (command : Command) (args : List String) : Prop :=
  ∃ format, Invocation.read? args = some (.run format command)

/-- The options that ask for a style. -/
def ReportStyle.options (style : ReportStyle) : List String :=
  (if style.json then ["--json"] else []) ++ if style.fullPaths then ["--full-paths"] else []

/-- Behind a double hyphen, any name can be asked for. -/
theorem Command.askedBy_show (style : ReportStyle) (name : String) :
    (Command.show name style).AskedBy ("show" :: (style.options ++ ["--", name])) := by
  obtain ⟨_ | _, _ | _⟩ := style <;> exact ⟨.text, rfl⟩

theorem Command.askedBy_catalog (style : ReportStyle) :
    (Command.catalog style).AskedBy ("catalog" :: style.options) := by
  obtain ⟨_ | _, _ | _⟩ := style <;> exact ⟨.text, rfl⟩

/-- **The answers on single entries and on the catalog hang together.** -/
structure ReportsAgree (catalog : Catalog) (one : ReportStyle → String → Answer)
    (all : ReportStyle → Answer) : Prop where
  /-- In text, the catalog is its entries one after the other. -/
  text : ∀ style, style.json = false →
    (all style).stdout = String.join (catalog.map fun entry => (one style entry.name).stdout)
  /-- In JSON, unless there is just one entry, the catalog is the array of its entries, and every
  entry is an object. -/
  json : ∀ style, style.json = true → catalog.length ≠ 1 →
    ∃ values, Json.StandsAs (all style).stdout (.array values) ∧
      List.Forall₂ (fun entry value => Json.StandsAs (one style entry.name).stdout value ∧
        ∃ fields, value = .object fields) catalog values
  /-- JSON is printed in the same way with and without full paths. -/
  paths : ∀ style style', style.json = true → style'.json = true →
    (all style).stdout = (all style').stdout ∧
      ∀ name, (one style name).stdout = (one style' name).stdout
  /-- To report on the catalog is no failure. -/
  code_all : ∀ style, (all style).code = 0
  /-- To report on an entry is a failure exactly if there is no such entry or it cannot be built. -/
  code_one : ∀ style name, (one style name).code = 1 ↔
    (∀ entry ∈ catalog, entry.name ≠ name) ∨
      ∃ entry ∈ catalog, entry.name = name ∧ ∃ error, entry.build.outcome = .error error
  code_one_of_ne : ∀ style name, (one style name).code ≠ 1 → (one style name).code = 0
  /-- On an entry that does not exist nothing is printed. -/
  unknown : ∀ style name, (∀ entry ∈ catalog, entry.name ≠ name) → (one style name).stdout = ""
  /-- An entry that cannot be built is reported all the same. -/
  failed_text : ∀ style, style.json = false → ∀ entry ∈ catalog, ∀ error,
    entry.build.outcome = .error error →
      (one style entry.name).stdout = entry.name ++ ": error: " ++ error.message ++ "\n"
  failed_json : ∀ style, style.json = true → ∀ entry ∈ catalog, ∀ error,
    entry.build.outcome = .error error → Json.StandsAs (one style entry.name).stdout
      (.object [("name", .string entry.name), ("summary", .string entry.summary),
        ("error", error.toJson)])

/-! ### The two commands -/

namespace Console

variable {catalog : Catalog} {entry : Entry} {name : String}

theorem answer_perform_catalog (catalog : Catalog) (style : ReportStyle) :
    (perform catalog (.catalog style)).answer =
      ⟨0, Report.print style (catalog.map Report.ofEntry)⟩ := rfl

theorem answer_perform_show_of_unknown (h : ∀ entry ∈ catalog, entry.name ≠ name)
    (style : ReportStyle) : (perform catalog (.show name style)).answer = ⟨1, ""⟩ := by
  rw [perform, Catalog.find?_eq_none_iff.2 h]
  rfl

theorem answer_perform_show_of_mem (hnames : (catalog.map (·.name)).Nodup) (h : entry ∈ catalog)
    (style : ReportStyle) : (perform catalog (.show entry.name style)).answer =
      ⟨if (Report.ofEntry entry).isFailure then 1 else 0,
        Report.print style [Report.ofEntry entry]⟩ := by
  rw [perform, (Catalog.find?_eq_some_iff hnames).2 ⟨h, rfl⟩]
  dsimp only
  split <;> rfl

/-- The log filter and the log format play no part in the answer. -/
theorem answer_run {command : Command} {args : List String} (h : command.AskedBy args)
    (catalog : Catalog) (filter : LogFilter) :
    (run catalog args filter).answer = (perform catalog command).answer := by
  obtain ⟨format, h⟩ := h
  rw [run, h]
  rfl

/-- No entry has the name, or one has it. -/
theorem forall_ne_or_exists_eq (catalog : Catalog) (name : String) :
    (∀ entry ∈ catalog, entry.name ≠ name) ∨ ∃ entry ∈ catalog, entry.name = name := by
  by_cases h : ∃ entry ∈ catalog, entry.name = name
  · exact Or.inr h
  · exact Or.inl fun entry hentry hname => h ⟨entry, hentry, hname⟩

theorem stdout_perform_catalog_of_text (hnames : (catalog.map (·.name)).Nodup)
    {style : ReportStyle} (h : style.json = false) :
    (perform catalog (.catalog style)).answer.stdout =
      String.join (catalog.map fun entry =>
        (perform catalog (.show entry.name style)).answer.stdout) := by
  rw [answer_perform_catalog, Report.print_text_eq_join h, List.map_map]
  refine congrArg String.join (List.map_congr_left fun entry hentry => ?_)
  rw [answer_perform_show_of_mem hnames hentry]
  rfl

theorem stdout_perform_show_of_error (hnames : (catalog.map (·.name)).Nodup) (hentry : entry ∈ catalog)
    {error : DescribeError} (herror : entry.build.outcome = .error error) {style : ReportStyle}
    (h : style.json = false) : (perform catalog (.show entry.name style)).answer.stdout =
      entry.name ++ ": error: " ++ error.message ++ "\n" := by
  rw [answer_perform_show_of_mem hnames hentry, Report.print_text h, List.map_singleton,
    Report.lines_singleton, Report.line_ofEntry_of_error herror]
  refine String.toList_inj.1 ?_
  simp

theorem standsAs_perform_show (hnames : (catalog.map (·.name)).Nodup) (hentry : entry ∈ catalog)
    {style : ReportStyle} (h : style.json = true) :
    Json.StandsAs (perform catalog (.show entry.name style)).answer.stdout
      (Report.ofEntry entry).toJson := by
  rw [answer_perform_show_of_mem hnames hentry, Report.print_json h]
  exact Json.standsAs_pretty _

theorem standsAs_perform_catalog {style : ReportStyle} (h : style.json = true)
    (hlength : catalog.length ≠ 1) :
    Json.StandsAs (perform catalog (.catalog style)).answer.stdout
      (.array (catalog.map fun entry => (Report.ofEntry entry).toJson)) := by
  have hreports : Report.jsonOf (catalog.map Report.ofEntry) =
      .array (catalog.map fun entry => (Report.ofEntry entry).toJson) := by
    rw [Report.jsonOf_of_length_ne_one (by simpa using hlength), List.map_map]
    rfl
  rw [answer_perform_catalog, Report.print_json h, hreports]
  exact Json.standsAs_pretty _

theorem stdout_perform_show_of_json (hnames : (catalog.map (·.name)).Nodup)
    {style style' : ReportStyle} (h : style.json = true) (h' : style'.json = true) (name : String) :
    (perform catalog (.show name style)).answer.stdout =
      (perform catalog (.show name style')).answer.stdout := by
  rcases forall_ne_or_exists_eq catalog name with hname | ⟨entry, hentry, rfl⟩
  · rw [answer_perform_show_of_unknown hname, answer_perform_show_of_unknown hname]
  · rw [answer_perform_show_of_mem hnames hentry, answer_perform_show_of_mem hnames hentry,
      Report.print_json h, Report.print_json h']

theorem code_perform_show_of_mem (hnames : (catalog.map (·.name)).Nodup) (hentry : entry ∈ catalog)
    (style : ReportStyle) : (perform catalog (.show entry.name style)).answer.code = 1 ↔
      ∃ error, entry.build.outcome = .error error := by
  rw [answer_perform_show_of_mem hnames hentry, ← Report.isFailure_ofEntry_iff]
  cases (Report.ofEntry entry).isFailure <;> simp

theorem code_perform_show_eq_one_iff (hnames : (catalog.map (·.name)).Nodup) (style : ReportStyle) :
    (perform catalog (.show name style)).answer.code = 1 ↔
      (∀ entry ∈ catalog, entry.name ≠ name) ∨
        ∃ entry ∈ catalog, entry.name = name ∧ ∃ error, entry.build.outcome = .error error := by
  rcases forall_ne_or_exists_eq catalog name with h | ⟨entry, hentry, rfl⟩
  · rw [answer_perform_show_of_unknown h]
    exact iff_of_true rfl (Or.inl h)
  · constructor
    · intro hcode
      exact Or.inr ⟨entry, hentry, rfl, (code_perform_show_of_mem hnames hentry style).1 hcode⟩
    · rintro (h | ⟨other, hother, hname, herror⟩)
      · exact absurd rfl (h entry hentry)
      · rw [← hname]
        exact (code_perform_show_of_mem hnames hother style).2 herror

theorem reportsAgree_perform (hnames : (catalog.map (·.name)).Nodup) :
    ReportsAgree catalog (fun style name => (perform catalog (.show name style)).answer)
      (fun style => (perform catalog (.catalog style)).answer) where
  text _ h := stdout_perform_catalog_of_text hnames h
  json style h hlength := by
    refine ⟨_, standsAs_perform_catalog h hlength, ?_⟩
    rw [List.forall₂_map_right_iff, List.forall₂_same]
    intro entry hentry
    exact ⟨standsAs_perform_show hnames hentry h, _, rfl⟩
  paths style style' h h' := by
    refine ⟨?_, stdout_perform_show_of_json hnames h h'⟩
    rw [answer_perform_catalog, answer_perform_catalog, Report.print_json h, Report.print_json h']
  code_all style := by rw [answer_perform_catalog]
  code_one style _ := code_perform_show_eq_one_iff hnames style
  code_one_of_ne style name hne := by
    have hle : (perform catalog (.show name style)).answer.code ≤ 1 :=
      code_perform_le_one catalog (.show name style)
    omega
  unknown style name h := by rw [answer_perform_show_of_unknown h]
  failed_text _ h _ hentry _ herror := stdout_perform_show_of_error hnames hentry herror h
  failed_json style h entry hentry error herror := by
    rw [← Report.toJson_ofEntry_of_error herror]
    exact standsAs_perform_show hnames hentry h

end Console

/-- **One entry and the whole catalog are reported alike.** For every catalog with distinct names,
whatever its entries build: in text, the report on the catalog is made of the reports on its entries; in
JSON, it is the array of their values; the report on the catalog is no failure; the report on a name is
one exactly if the name is unknown, and then nothing is printed, or if the entry cannot be built, which
is printed first. So it is for the two commands themselves, and for all command lines that ask for
them. -/
theorem show_and_catalog_agree {catalog : Catalog} (hnames : (catalog.map (·.name)).Nodup) :
    ReportsAgree catalog
      (fun style name => (Console.perform catalog (.show name style)).answer)
      (fun style => (Console.perform catalog (.catalog style)).answer) ∧
    ∀ (one : ReportStyle → String → List String) (all : ReportStyle → List String),
      (∀ style name, (Command.show name style).AskedBy (one style name)) →
      (∀ style, (Command.catalog style).AskedBy (all style)) → ∀ filter : LogFilter,
        ReportsAgree catalog
          (fun style name => (Console.run catalog (one style name) filter).answer)
          (fun style => (Console.run catalog (all style) filter).answer) := by
  have hperform := Console.reportsAgree_perform hnames
  refine ⟨hperform, fun one all hone hall filter => ?_⟩
  simpa only [Console.answer_run (hone _ _), Console.answer_run (hall _)] using hperform

/-- The standard catalog, half of which cannot be built, with the options in front and the name behind
a double hyphen. -/
theorem show_and_catalog_agree_of_standard :
    let one : ReportStyle → String → List String :=
      fun style name => "show" :: (style.options ++ ["--", name])
    let all : ReportStyle → List String := fun style => "catalog" :: style.options
    (Catalog.standard.map (·.name)).Nodup ∧
      (∀ style name, (Command.show name style).AskedBy (one style name)) ∧
      (∀ style, (Command.catalog style).AskedBy (all style)) ∧
      ReportsAgree Catalog.standard
        (fun style name => (Console.perform Catalog.standard (.show name style)).answer)
        (fun style => (Console.perform Catalog.standard (.catalog style)).answer) ∧
      ReportsAgree Catalog.standard
        (fun style name => (Console.run Catalog.standard (one style name) []).answer)
        (fun style => (Console.run Catalog.standard (all style) []).answer) := by
  intro one all
  obtain ⟨hperform, hrun⟩ := show_and_catalog_agree Catalog.nodup_names
  exact ⟨Catalog.nodup_names, Command.askedBy_show, Command.askedBy_catalog, hperform,
    hrun one all Command.askedBy_show Command.askedBy_catalog []⟩

end TypeShape
