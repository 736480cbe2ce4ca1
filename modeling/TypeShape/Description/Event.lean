import TypeShape.Description.Error
import TypeShape.Descriptor.Render
import TypeShape.Log.Record

/-!
# What a construction reports

While a type is described, every finished argument and every refused one is reported; the call that
started the description reports its outcome at the end. `Event.record` is the log record of an
event.
-/

namespace TypeShape

inductive EntryPoint where
  /-- From a reference to a type. -/
  | fromType
  | listOf
  | mapOf
  /-- From a type of the program. -/
  | ofType
  /-- From the argument that an ancestor pins down. -/
  | capture
  /-- From an expression made by hand. -/
  | fromExpr
  deriving DecidableEq

/-- The name of a call in log records. -/
def EntryPoint.label : EntryPoint → String
  | .fromType => "from_type"
  | .listOf => "list_of"
  | .mapOf => "map_of"
  | .ofType => "of"
  | .capture => "capture"
  | .fromExpr => "from_expr"

/-- What a construction reports. -/
inductive Event where
  /-- The expression at the position has been described. -/
  | described (position : Position) (result : Descriptor Symbol)
  /-- The expression at the position has been refused for its form. -/
  | refused (form : Refusal) (expression : String) (position : Position)
  | built (entry : EntryPoint) (result : Descriptor Symbol)
  | failed (entry : EntryPoint) (error : DescribeError)

def Event.record : Event → LogRecord
  | .described position result =>
    ⟨.trace, "type_token::decompose",
      [("message", .text "decomposed type expression"), ("position", .text position.render),
       ("token", .text (result.render .short))]⟩
  | .refused form expression position =>
    ⟨.trace, "type_token::validate",
      [("message", .text "rejecting type expression"), ("expr", .text expression),
       ("position", .text position.render), ("kind", .text form.tag)]⟩
  | .built entry result =>
    ⟨.debug, "type_token::token",
      [("message", .text "built type token"), ("entry_point", .text entry.label),
       ("token", .text (result.render .short))]⟩
  | .failed entry error =>
    ⟨.debug, "type_token::token",
      [("message", .text "type token construction failed"), ("entry_point", .text entry.label),
       ("error", .text error.message)]⟩

end TypeShape
