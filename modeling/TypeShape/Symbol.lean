import TypeShape.Text.Path

/-!
# Symbols

A symbol stands for a nominal type with all argument information taken away: `Vec`, not
`Vec<String>`. Its identity alone decides equality; its full name is kept for rendering. Main
statements: symbols are equal under `==` exactly when their identities are, whatever their names.
-/

namespace TypeShape

/-- What makes a nominal type the one it is. -/
inductive Identity where
  /-- A type known by a key. -/
  | named (key : String)
  /-- A type known by a number, different from every type with a key. -/
  | numbered (index : Nat)
  deriving DecidableEq

/-- A nominal type without arguments. -/
structure Symbol where
  /-- What equality looks at. -/
  identity : Identity
  /-- The qualified name, possibly with an argument list. -/
  fullName : String

/-- How the symbols in a rendering are written. -/
inductive NameStyle where
  | short
  | full
  deriving DecidableEq

namespace Symbol

/-- Names play no part in comparisons. -/
instance : BEq Symbol := ⟨fun a b => a.identity == b.identity⟩

theorem beq_iff (a b : Symbol) : (a == b) = true ↔ a.identity = b.identity := by
  simp [BEq.beq]

/-- The symbol as a text of the given style. -/
def text : NameStyle → Symbol → List Char
  | .short, a => Text.shortNameOf a.fullName.toList
  | .full, a => Text.pathOf a.fullName.toList

/-- The short name, as in `Vec`. -/
def name (a : Symbol) : String := String.ofList (a.text .short)

/-- The qualified name without arguments, as in `alloc::vec::Vec`. -/
def path (a : Symbol) : String := String.ofList (a.text .full)

def render (style : NameStyle) (a : Symbol) : String := String.ofList (a.text style)

@[simp] theorem render_short (a : Symbol) : a.render .short = a.name := rfl

@[simp] theorem render_full (a : Symbol) : a.render .full = a.path := rfl

end Symbol

end TypeShape
