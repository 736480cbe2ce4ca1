import TypeShape.Description.Basic
import TypeShape.Builtin

/-!
# Building descriptors

The calls that build a descriptor. Each describes an expression, or a list or map of references that
may be absent, and reports its outcome at the end.

Main statement: `outcome_reportEnd`, the report does not change the outcome.
-/

namespace TypeShape

/-- Reports the outcome of a call at its end. -/
def reportEnd (entry : EntryPoint) (attempt : Attempt (Descriptor Symbol)) :
    Attempt (Descriptor Symbol) :=
  match attempt.outcome with
  | .ok d => ⟨attempt.events ++ [.built entry d], .ok d⟩
  | .error e => ⟨attempt.events ++ [.failed entry e], .error e⟩

@[simp] theorem outcome_reportEnd (entry : EntryPoint) (attempt : Attempt (Descriptor Symbol)) :
    (reportEnd entry attempt).outcome = attempt.outcome := by
  unfold reportEnd
  split <;> simp_all

/-- The first argument of an ancestor, which is what the ancestor pins down. -/
def pinnedArgument (ancestor : Expr Symbol) : Except DescribeError (Expr Symbol) :=
  match ancestor with
  | .app _ (e :: _) => .ok e
  | _ => .error (.unpinned (ancestor.render .short))

namespace Descriptor

/-- Describes the type referred to. -/
def fromType (reference : Option (Expr Symbol)) : Attempt (Descriptor Symbol) :=
  reportEnd .fromType (describeReference .root reference)

/-- Describes the list of the element type referred to. -/
def listOf (element : Option (Expr Symbol)) : Attempt (Descriptor Symbol) :=
  reportEnd .listOf (describeApplication Builtin.list [element] .root)

/-- Describes the map from the key type to the value type referred to. -/
def mapOf (key value : Option (Expr Symbol)) : Attempt (Descriptor Symbol) :=
  reportEnd .mapOf (describeApplication Builtin.map [key, value] .root)

/-- Describes the type of the program whose expression is given. -/
def ofType (e : Expr Symbol) : Attempt (Descriptor Symbol) := reportEnd .ofType (describe e)

/-- Describes the argument that an ancestor pins down. -/
def capture (ancestor : Expr Symbol) : Attempt (Descriptor Symbol) :=
  reportEnd .capture
    (match pinnedArgument ancestor with
      | .ok e => describe e
      | .error error => .fail error)

/-- Describes an expression made by hand. -/
def fromExpr (e : Expr Symbol) : Attempt (Descriptor Symbol) := reportEnd .fromExpr (describe e)

/-- Converts an expression made by hand; the call counts as `fromExpr`. -/
def ofExpr (e : Expr Symbol) : Attempt (Descriptor Symbol) := fromExpr e

end Descriptor

end TypeShape
