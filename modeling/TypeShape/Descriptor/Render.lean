import TypeShape.Descriptor.Basic

/-!
# Rendering of descriptors

A descriptor is written as its head and, if it has parameters, their list `<A, B>`.
-/

namespace TypeShape

namespace Descriptor

variable {ρ : Type}

mutual
/-- A descriptor in front of a text. -/
def renderOnto (label : ρ → List Char) : Descriptor ρ → List Char → List Char
  | .node a ds, rest => label a ++ parametersOnto label ds rest
/-- A parameter list in front of a text. -/
def parametersOnto (label : ρ → List Char) : List (Descriptor ρ) → List Char → List Char
  | [], rest => rest
  | d :: ds, rest => '<' :: renderOnto label d (laterOnto label ds rest)
/-- The parameters after the first, in front of a text. -/
def laterOnto (label : ρ → List Char) : List (Descriptor ρ) → List Char → List Char
  | [], rest => '>' :: rest
  | d :: ds, rest => ',' :: ' ' :: renderOnto label d (laterOnto label ds rest)
end

def text (label : ρ → List Char) (d : Descriptor ρ) : List Char := renderOnto label d []

/-- The rendering of a descriptor over symbols, in the given style. -/
def render (style : NameStyle) (d : Descriptor Symbol) : String :=
  String.ofList (d.text (Symbol.text style))

end Descriptor

end TypeShape
