import TypeShape.Expr.Basic

/-!
# Types of a program

A static type is a type as a program uses it: a declared type, a declared constructor with its
arguments, an array, a slice, or a value of any type behind a pointer. Declarations say which symbol
stands for which name.

* `Declarations.symbol?`: the symbol of a name that takes a given number of arguments.
* `StaticType.reflect?`: the expression of a static type; there is none if a name is not declared.
  Main statement: `reflectList?_eq_some_iff`, several types are reflected one by one.
-/

namespace TypeShape

/-- A name that a program may use. -/
structure Declaration where
  name : String
  /-- How many arguments the name takes. -/
  arity : Nat
  /-- What stands at the head of the types so named. -/
  symbol : Symbol

/-- The names that a program may use. -/
abbrev Declarations := List Declaration

/-- The symbol of the first declaration of a name with the given number of arguments. -/
def Declarations.symbol? (declarations : Declarations) (name : String) (arity : Nat) :
    Option Symbol :=
  (declarations.find? fun d => d.name == name && d.arity == arity).map (·.symbol)

/-- What a value of any type is known to allow besides. -/
inductive Marker where
  | plain
  /-- It may be sent to another thread. -/
  | send
  /-- It may be sent to and shared with another thread. -/
  | sendSync
  deriving DecidableEq

/-- A type as a program uses it. -/
inductive StaticType where
  /-- A declared type without arguments. -/
  | plain (name : String)
  /-- A declared constructor with at least one argument. -/
  | generic (name : String) (first : StaticType) (others : List StaticType)
  | array (component : StaticType) (length : Nat)
  | slice (component : StaticType)
  /-- Any type. -/
  | dynAny (marker : Marker)
  /-- A type that states its expression itself. -/
  | stated (e : Expr Symbol)

namespace StaticType

mutual
/-- The expression of a static type. -/
def reflect? (declarations : Declarations) : StaticType → Option (Expr Symbol)
  | .plain name => (declarations.symbol? name 0).map .nominal
  | .generic name first others =>
    match declarations.symbol? name (others.length + 1), reflect? declarations first,
        reflectList? declarations others with
    | some a, some e, some es => some (.app a (e :: es))
    | _, _, _ => none
  | .array c n => (reflect? declarations c).map fun e => .array e (some n)
  | .slice c => (reflect? declarations c).map fun e => .array e none
  | .dynAny _ => some .anything
  | .stated e => some e
def reflectList? (declarations : Declarations) : List StaticType → Option (List (Expr Symbol))
  | [] => some []
  | t :: ts =>
    match reflect? declarations t, reflectList? declarations ts with
    | some e, some es => some (e :: es)
    | _, _ => none
end

theorem reflectList?_eq_some_iff (declarations : Declarations) (ts : List StaticType)
    (es : List (Expr Symbol)) :
    reflectList? declarations ts = some es ↔ ts.map (reflect? declarations) = es.map some := by
  induction ts generalizing es with
  | nil => cases es <;> simp [reflectList?]
  | cons t ts ih =>
    cases es with
    | nil =>
      simp only [reflectList?, List.map_cons, List.map_nil, reduceCtorEq, iff_false]
      split <;> simp
    | cons e es =>
      simp only [reflectList?, List.map_cons, List.cons.injEq, ← ih]
      split <;> simp_all

end StaticType

end TypeShape
