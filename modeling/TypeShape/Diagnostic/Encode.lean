import TypeShape.Description.Basic
import TypeShape.Diagnostic.Json
import TypeShape.Diagnostic.Outline

/-!
# Diagnostic forms

The JSON value (`toJson`) and the debug form (`outline`) of symbols, positions, expressions,
descriptors and errors. A symbol is written by its names, never by its identity; a position is
written as a string. In JSON every constructor is tagged by its name and absent parts are `null`.
Main statements: `Expr.jsonList_eq` and `Descriptor.jsonList_eq`, lists are encoded element by
element.
-/

namespace TypeShape

/-! ### Symbols and positions -/

/-- A symbol by its name and its path. -/
def Symbol.toJson (a : Symbol) : Json :=
  .object [("name", .string a.name), ("path", .string a.path)]

/-- A symbol by its name, unquoted. -/
def Symbol.outline (a : Symbol) : Outline := .text a.name

def Position.toJson (p : Position) : Json := .string p.render

def Position.outline (p : Position) : Outline :=
  .tuple "ArgumentPath" [.list (p.indices.map .number)]

/-! ### Expressions -/

/-- A number that may be absent. -/
def Json.ofLength? : Option Nat → Json
  | none => .null
  | some n => .number n

namespace Expr

mutual
/-- An expression in JSON, tagged by its form. -/
def toJson : Expr Symbol → Json
  | .nominal a => .object [("nominal", a.toJson)]
  | .app a as =>
    .object [("parameterized", .object [("raw", a.toJson), ("arguments", .array (jsonList as))])]
  | .array c n =>
    .object [("array", .object [("component", toJson c), ("length", .ofLength? n)])]
  | .freeVar x => .object [("variable", .object [("name", .string x)])]
  | .anything => .object [("wildcard", .object [("upper", .null), ("lower", .null)])]
  | .subtypeOf b => .object [("wildcard", .object [("upper", toJson b), ("lower", .null)])]
  | .supertypeOf b => .object [("wildcard", .object [("upper", .null), ("lower", toJson b)])]
def jsonList : List (Expr Symbol) → List Json
  | [] => []
  | e :: es => toJson e :: jsonList es
end

theorem jsonList_eq (es : List (Expr Symbol)) : jsonList es = es.map toJson := by
  induction es with
  | nil => rfl
  | cons e es ih => simp [jsonList, ih]

/-- The debug form of an application. -/
def outlineApp (a : Symbol) (arguments : List Outline) : Outline :=
  .tuple "Parameterized"
    [.record "ParameterizedType" [("raw", a.outline), ("arguments", .list arguments)]]

/-- The debug form of a wildcard with its upper and lower bounds. -/
def outlineWildcard (upper lower : Option Outline) : Outline :=
  .tuple "Wildcard"
    [.record "WildcardType" [("upper", .option upper), ("lower", .option lower)]]

mutual
/-- The debug form of an expression. -/
def outline : Expr Symbol → Outline
  | .nominal a => .tuple "Nominal" [a.outline]
  | .app a as => outlineApp a (outlineList as)
  | .array c n =>
    .tuple "Array"
      [.record "ArrayType" [("component", outline c), ("length", .option (n.map .number))]]
  | .freeVar x => .tuple "Variable" [.record "TypeVariable" [("name", .quoted x)]]
  | .anything => outlineWildcard none none
  | .subtypeOf b => outlineWildcard (some (outline b)) none
  | .supertypeOf b => outlineWildcard none (some (outline b))
def outlineList : List (Expr Symbol) → List Outline
  | [] => []
  | e :: es => outline e :: outlineList es
end

def outlineReference (e : Expr Symbol) : Outline := .tuple "TypeRef" [e.outline]

end Expr

/-- The debug form of an expression whose form can be described. -/
def Admitted.outline : Admitted → Outline
  | .nominal a => .tuple "Nominal" [a.outline]
  | .app a as => Expr.outlineApp a (as.map Expr.outline)

/-! ### Descriptors -/

namespace Descriptor

mutual
/-- A descriptor in JSON. -/
def toJson : Descriptor Symbol → Json
  | .node a ds => .object [("raw_type", a.toJson), ("type_parameters", .array (jsonList ds))]
def jsonList : List (Descriptor Symbol) → List Json
  | [] => []
  | d :: ds => toJson d :: jsonList ds
end

theorem jsonList_eq (ds : List (Descriptor Symbol)) : jsonList ds = ds.map toJson := by
  induction ds with
  | nil => rfl
  | cons d ds ih => simp [jsonList, ih]

mutual
/-- The debug form of a descriptor; of its parts only the list of parameters is ever broken. -/
def outline : Descriptor Symbol → Outline
  | .node a ds =>
    .framed ("TypeToken(raw_type=" ++ a.name ++ ", type_parameters=") (.list (outlineList ds)) ")"
def outlineList : List (Descriptor Symbol) → List Outline
  | [] => []
  | d :: ds => outline d :: outlineList ds
end

end Descriptor

/-! ### Errors -/

def Refusal.toJson (form : Refusal) : Json := .string form.key

def Refusal.outline (form : Refusal) : Outline := .text form.tag

namespace DescribeError

/-- An error in JSON, tagged by its cause. -/
def toJson (error : DescribeError) : Json :=
  .object [(error.tag,
    match error with
    | .absent position => .object [("position", position.toJson)]
    | .unsupported form expression position =>
      .object [("kind", form.toJson), ("expression", .string expression),
        ("position", position.toJson)]
    | .unpinned ancestor => .object [("ancestor", .string ancestor)])]

/-- The debug form of an error. -/
def outline (error : DescribeError) : Outline :=
  .record error.tag
    (match error with
    | .absent position => [("position", position.outline)]
    | .unsupported form expression position =>
      [("kind", form.outline), ("expression", .quoted expression), ("position", position.outline)]
    | .unpinned ancestor => [("ancestor", .quoted ancestor)])

end DescribeError

end TypeShape
