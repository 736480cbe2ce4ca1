import TypeShape.Position

/-!
# Why a type cannot be described

`Refusal` names the three forms of expression that no descriptor holds, `DescribeError` the causes
for which a description fails. Main statements: `Refusal.tag_inj` and `Refusal.ofKey?_key`, a form is
known by its name in debug output and by its name in JSON.
-/

namespace TypeShape

/-- The forms of expression that no descriptor holds. -/
inductive Refusal where
  /-- An array or a slice. -/
  | array
  /-- A parameter bound to no type. -/
  | variable
  /-- Some type, with or without a bound. -/
  | wildcard
  deriving DecidableEq

namespace Refusal

/-- The form as an error message names it. -/
def label : Refusal → String
  | .array => "Array type"
  | .variable => "Type variable type"
  | .wildcard => "Wildcard type"

/-- What an error message suggests instead. -/
def hint : Refusal → String
  | .array => " Use Vec instead of arrays."
  | .variable => ""
  | .wildcard => ""

/-- The name of the form in debug output. -/
def tag : Refusal → String
  | .array => "Array"
  | .variable => "TypeVariable"
  | .wildcard => "Wildcard"

theorem tag_inj {form form' : Refusal} : form.tag = form'.tag ↔ form = form' := by
  cases form <;> cases form' <;> decide

/-- The name of the form in JSON. -/
def key : Refusal → String
  | .array => "array"
  | .variable => "type_variable"
  | .wildcard => "wildcard"

/-- The form with the given JSON name. -/
def ofKey? (key : String) : Option Refusal :=
  [Refusal.array, .variable, .wildcard].find? fun r => r.key == key

theorem ofKey?_key (form : Refusal) : ofKey? form.key = some form := by
  cases form <;> decide

end Refusal

/-- The causes for which a description fails. -/
inductive DescribeError where
  /-- A type is required at the position, and none is given. -/
  | absent (position : Position)
  /-- The expression at the position has a form that no descriptor holds. -/
  | unsupported (form : Refusal) (expression : String) (position : Position)
  /-- The ancestor pins no argument down. -/
  | unpinned (ancestor : String)
  deriving DecidableEq

namespace DescribeError

def message : DescribeError → String
  | .absent position =>
    "Invalid type argument at " ++ position.render ++ ": type must not be absent"
  | .unsupported form expression position =>
    form.label ++ " " ++ expression ++ " at " ++ position.render ++ " is not supported."
      ++ form.hint
  | .unpinned ancestor => ancestor ++ " isn't parameterized"

theorem message_absent (position : Position) : (absent position).message =
    "Invalid type argument at " ++ position.render ++ ": type must not be absent" := rfl

theorem message_unsupported (form : Refusal) (expression : String) (position : Position) :
    (unsupported form expression position).message =
      form.label ++ " " ++ expression ++ " at " ++ position.render ++ " is not supported."
        ++ form.hint := rfl

theorem message_unpinned (ancestor : String) :
    (unpinned ancestor).message = ancestor ++ " isn't parameterized" := rfl

/-- Where the failure is, if it is tied to a position. -/
def position? : DescribeError → Option Position
  | .absent position => some position
  | .unsupported _ _ position => some position
  | .unpinned _ => none

/-- The name of the cause in JSON and in debug output. -/
def tag : DescribeError → String
  | .absent _ => "InvalidTypeArgument"
  | .unsupported _ _ _ => "UnsupportedTypeKind"
  | .unpinned _ => "MissingTypeArgument"

end DescribeError

end TypeShape
