import TypeShape.Expr.Basic

/-!
# Rendering of type expressions

Arguments are written `<A, B>` and left out when there are none, arrays `[c; n]`, slices `[c]`, and
wildcards `?`, `? <: bound` and `? :> bound`. How a head is written is a parameter.
-/

namespace TypeShape

namespace Expr

variable {ρ : Type}

/-- How an array ends: its length, if any, and the bracket. -/
def arrayEnd : Option Nat → List Char
  | none => [']']
  | some n => [';', ' '] ++ Nat.toDigits 10 n ++ [']']

mutual
/-- An expression in front of a text. -/
def renderOnto (label : ρ → List Char) : Expr ρ → List Char → List Char
  | .nominal a, rest => label a ++ rest
  | .app a as, rest => label a ++ argumentsOnto label as rest
  | .array c n, rest => '[' :: renderOnto label c (arrayEnd n ++ rest)
  | .freeVar x, rest => x.toList ++ rest
  | .anything, rest => '?' :: rest
  | .subtypeOf b, rest => ['?', ' ', '<', ':', ' '] ++ renderOnto label b rest
  | .supertypeOf b, rest => ['?', ' ', ':', '>', ' '] ++ renderOnto label b rest
/-- An argument list in front of a text. -/
def argumentsOnto (label : ρ → List Char) : List (Expr ρ) → List Char → List Char
  | [], rest => rest
  | e :: es, rest => '<' :: renderOnto label e (laterOnto label es rest)
/-- The arguments after the first, in front of a text. -/
def laterOnto (label : ρ → List Char) : List (Expr ρ) → List Char → List Char
  | [], rest => '>' :: rest
  | e :: es, rest => ',' :: ' ' :: renderOnto label e (laterOnto label es rest)
end

def text (label : ρ → List Char) (e : Expr ρ) : List Char := renderOnto label e []

/-- The rendering of an expression over symbols, in the given style. -/
def render (style : NameStyle) (e : Expr Symbol) : String :=
  String.ofList (e.text (Symbol.text style))

/-- The rendering of a reference to a type: the type is written, and nothing around it. -/
def renderReference (style : NameStyle) (e : Expr Symbol) : String := e.render style

end Expr

end TypeShape
