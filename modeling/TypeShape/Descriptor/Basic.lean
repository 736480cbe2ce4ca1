import TypeShape.Expr.Basic

/-!
# Descriptors

A descriptor describes a type at run time: a nominal type and a descriptor for each of its
arguments. Arrays, variables and wildcards have no place in it, at any depth.

* `Descriptor.induct`: induction with every parameter at hand.
* `Descriptor.at?`: the descriptor reached by walking through arguments; `at?_append` walks on.
* `Descriptor.replaceAt`: another descriptor in its place.
* `Descriptor.map`: the same tree with other heads.
* `Descriptor.beq`: equality up to `==` of the heads.
* `Descriptor.toExpr`: the expression that a descriptor describes.
-/

namespace TypeShape

/-- A nominal type together with the descriptors of its arguments, with heads in `ρ`. -/
inductive Descriptor (ρ : Type) where
  /-- A head and its parameters. -/
  | node (head : ρ) (parameters : List (Descriptor ρ))

namespace Descriptor

variable {ρ σ : Type}

/-- Induction on a descriptor, with a hypothesis for every parameter. -/
@[elab_as_elim]
theorem induct {motive : Descriptor ρ → Prop}
    (node : ∀ a ds, (∀ d ∈ ds, motive d) → motive (.node a ds)) : ∀ d, motive d
  | .node a ds => node a ds fun d _ => induct node d

/-- The nominal type described, without arguments. -/
def head : Descriptor ρ → ρ
  | .node a _ => a

def parameters : Descriptor ρ → List (Descriptor ρ)
  | .node _ ds => ds

def parameter? (d : Descriptor ρ) (index : Nat) : Option (Descriptor ρ) := d.parameters[index]?

def isParameterized (d : Descriptor ρ) : Bool := !d.parameters.isEmpty

/-- The descriptor reached by walking through arguments. -/
def at? : List Nat → Descriptor ρ → Option (Descriptor ρ)
  | [], d => some d
  | index :: indices, d => (d.parameter? index).bind (at? indices)

@[simp] theorem at?_nil (d : Descriptor ρ) : d.at? [] = some d := rfl

@[simp] theorem at?_cons (index : Nat) (indices : List Nat) (d : Descriptor ρ) :
    d.at? (index :: indices) = (d.parameter? index).bind (at? indices) := rfl

theorem at?_append (p q : List Nat) (d : Descriptor ρ) :
    d.at? (p ++ q) = (d.at? p).bind (at? q) := by
  induction p generalizing d with
  | nil => rfl
  | cons index p ih =>
    rw [List.cons_append, at?_cons, at?_cons]
    cases d.parameter? index with
    | none => rfl
    | some c => exact ih c

/-- The descriptor with another one at a position, itself if there is no such position. -/
def replaceAt : List Nat → Descriptor ρ → Descriptor ρ → Descriptor ρ
  | [], new, _ => new
  | index :: indices, new, .node a ds => .node a (ds.modify index (replaceAt indices new))

@[simp] theorem replaceAt_nil (new d : Descriptor ρ) : replaceAt [] new d = new := by
  cases d; rfl

/-! ### Other heads -/

mutual
/-- The same tree with every head replaced. -/
def map (f : ρ → σ) : Descriptor ρ → Descriptor σ
  | .node a ds => .node (f a) (mapList f ds)
def mapList (f : ρ → σ) : List (Descriptor ρ) → List (Descriptor σ)
  | [] => []
  | d :: ds => map f d :: mapList f ds
end

theorem mapList_eq (f : ρ → σ) (ds : List (Descriptor ρ)) : mapList f ds = ds.map (map f) := by
  induction ds with
  | nil => rfl
  | cons d ds ih => simp [mapList, ih]

@[simp] theorem map_node (f : ρ → σ) (a : ρ) (ds : List (Descriptor ρ)) :
    map f (.node a ds) = .node (f a) (ds.map (map f)) := by
  simp [map, mapList_eq]

/-! ### Equality -/

mutual
/-- Equality of two trees up to `==` of their heads. -/
def beq [BEq ρ] : Descriptor ρ → Descriptor ρ → Bool
  | .node a ds, .node b es => a == b && beqList ds es
def beqList [BEq ρ] : List (Descriptor ρ) → List (Descriptor ρ) → Bool
  | [], [] => true
  | d :: ds, e :: es => beq d e && beqList ds es
  | _, _ => false
end

instance [BEq ρ] : BEq (Descriptor ρ) := ⟨beq⟩

/-! ### Back to expressions -/

mutual
/-- The expression a descriptor describes: the head applied to the parameters, if there are any. -/
def toExpr : Descriptor ρ → Expr ρ
  | .node a [] => .nominal a
  | .node a (d :: ds) => .app a (toExpr d :: toExprList ds)
def toExprList : List (Descriptor ρ) → List (Expr ρ)
  | [] => []
  | d :: ds => toExpr d :: toExprList ds
end

theorem toExprList_eq (ds : List (Descriptor ρ)) : toExprList ds = ds.map toExpr := by
  induction ds with
  | nil => rfl
  | cons d ds ih => simp [toExprList, ih]

end Descriptor

end TypeShape
