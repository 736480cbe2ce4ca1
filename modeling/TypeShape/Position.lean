/-!
# Positions

A position says where an argument stands in a type: the indices of the arguments to walk through
from the root. It is written `$` for the root and `$[1][0]` for the first argument of the second
argument of the root. Main statements: how `child` changes the depth, the written form and the
positions below.
-/

namespace TypeShape

/-- The argument indices walked from the root. -/
structure Position where
  /-- The indices, from the root on. -/
  indices : List Nat
  deriving DecidableEq

namespace Position

def root : Position := ⟨[]⟩

/-- The position of an argument of the type at this position. -/
def child (p : Position) (index : Nat) : Position := ⟨p.indices ++ [index]⟩

/-- The position reached from here by walking on. -/
def append (p q : Position) : Position := ⟨p.indices ++ q.indices⟩

instance : Append Position := ⟨append⟩

/-- No argument is walked through. -/
def isRoot (p : Position) : Bool := p.indices.isEmpty

def depth (p : Position) : Nat := p.indices.length

/-- An index in brackets. -/
def indexText (index : Nat) : List Char := '[' :: (Nat.toDigits 10 index ++ [']'])

/-- The written form of a position. -/
def text (p : Position) : List Char := '$' :: p.indices.flatMap indexText

def render (p : Position) : String := String.ofList p.text

instance : Inhabited Position := ⟨root⟩

@[simp] theorem indices_root : root.indices = [] := rfl

@[simp] theorem indices_append (p q : Position) : (p ++ q).indices = p.indices ++ q.indices := rfl

@[simp] theorem indices_child (p : Position) (index : Nat) :
    (p.child index).indices = p.indices ++ [index] := rfl

@[simp] theorem root_append (p : Position) : root ++ p = p := rfl

@[simp] theorem append_root (p : Position) : p ++ root = p := by
  show Position.mk _ = p
  simp

theorem child_append (p : Position) (index : Nat) (indices : List Nat) :
    p.child index ++ ⟨indices⟩ = p ++ ⟨index :: indices⟩ := by
  show Position.mk _ = Position.mk _
  simp

@[simp] theorem depth_child (p : Position) (index : Nat) :
    (p.child index).depth = p.depth + 1 := by
  simp [depth]

@[simp] theorem isRoot_child (p : Position) (index : Nat) : (p.child index).isRoot = false := by
  simp [isRoot]

theorem text_child (p : Position) (index : Nat) :
    (p.child index).text = p.text ++ indexText index := by
  simp [text]

end Position

end TypeShape
