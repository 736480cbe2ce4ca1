import TypeShape.Symbol

/-!
# Type expressions

A type expression is a type as it is written, including the forms that no descriptor can hold:
arrays and slices, unbound variables and wildcards. The type is parametric in what stands at its
heads, so that a tree of symbols can be compared with the tree of their identities or of their
names.

* `Expr.induct`: induction on an expression, with every argument of an application at hand.
* `Expr.map`: the same tree with other heads; `map_map` and `map_id`.
* `Expr.beq`: equality of two trees up to `==` of their heads.
* `Expr.normalize`: an application to no argument counts as the bare symbol, at every argument.
-/

namespace TypeShape

/-- A type as it is written, with heads in `ρ`. -/
inductive Expr (ρ : Type) where
  /-- A nominal type without arguments. -/
  | nominal (head : ρ)
  /-- A nominal type applied to arguments, which may be none. -/
  | app (head : ρ) (arguments : List (Expr ρ))
  /-- An array of the given length, a slice if there is no length. -/
  | array (component : Expr ρ) (length : Option Nat)
  /-- A parameter that is bound to no type. -/
  | freeVar (name : String)
  /-- Some type. -/
  | anything
  /-- Some subtype of the bound. -/
  | subtypeOf (upper : Expr ρ)
  /-- Some supertype of the bound. -/
  | supertypeOf (lower : Expr ρ)

namespace Expr

variable {ρ σ τ : Type}

/-- Induction on an expression, with a hypothesis for every argument of an application. -/
@[elab_as_elim]
theorem induct {motive : Expr ρ → Prop}
    (nominal : ∀ a, motive (.nominal a))
    (app : ∀ a as, (∀ e ∈ as, motive e) → motive (.app a as))
    (array : ∀ c n, motive c → motive (.array c n))
    (freeVar : ∀ x, motive (.freeVar x))
    (anything : motive .anything)
    (subtypeOf : ∀ b, motive b → motive (.subtypeOf b))
    (supertypeOf : ∀ b, motive b → motive (.supertypeOf b)) : ∀ e, motive e
  | .nominal a => nominal a
  | .app a as => app a as fun e _ =>
      induct nominal app array freeVar anything subtypeOf supertypeOf e
  | .array c n => array c n (induct nominal app array freeVar anything subtypeOf supertypeOf c)
  | .freeVar x => freeVar x
  | .anything => anything
  | .subtypeOf b =>
      subtypeOf b (induct nominal app array freeVar anything subtypeOf supertypeOf b)
  | .supertypeOf b =>
      supertypeOf b (induct nominal app array freeVar anything subtypeOf supertypeOf b)

/-- The nominal type at the head, if there is one. -/
def head? : Expr ρ → Option ρ
  | .nominal a => some a
  | .app a _ => some a
  | _ => none

/-- The arguments; only an application has any. -/
def arguments : Expr ρ → List (Expr ρ)
  | .app _ as => as
  | _ => []

/-! ### Other heads -/

mutual
/-- The same tree with every head replaced. -/
def map (f : ρ → σ) : Expr ρ → Expr σ
  | .nominal a => .nominal (f a)
  | .app a as => .app (f a) (mapList f as)
  | .array c n => .array (map f c) n
  | .freeVar x => .freeVar x
  | .anything => .anything
  | .subtypeOf b => .subtypeOf (map f b)
  | .supertypeOf b => .supertypeOf (map f b)
def mapList (f : ρ → σ) : List (Expr ρ) → List (Expr σ)
  | [] => []
  | e :: es => map f e :: mapList f es
end

theorem mapList_eq (f : ρ → σ) (es : List (Expr ρ)) : mapList f es = es.map (map f) := by
  induction es with
  | nil => rfl
  | cons e es ih => simp [mapList, ih]

@[simp] theorem map_app (f : ρ → σ) (a : ρ) (as : List (Expr ρ)) :
    map f (.app a as) = .app (f a) (as.map (map f)) := by
  simp [map, mapList_eq]

theorem map_map (g : σ → τ) (f : ρ → σ) (e : Expr ρ) : (e.map f).map g = e.map (g ∘ f) := by
  induction e using induct with
  | app a as ih => simpa using ih
  | _ => simp_all [map]

theorem map_id (e : Expr ρ) : e.map id = e := by
  induction e using induct with
  | app a as ih =>
    rw [map_app, List.map_congr_left (g := id) (by simpa using ih)]
    simp
  | _ => simp_all [map]

/-! ### Equality -/

mutual
/-- Equality of two trees up to `==` of their heads. -/
def beq [BEq ρ] : Expr ρ → Expr ρ → Bool
  | .nominal a, .nominal b => a == b
  | .app a as, .app b bs => a == b && beqList as bs
  | .array c n, .array d m => beq c d && n == m
  | .freeVar x, .freeVar y => x == y
  | .anything, .anything => true
  | .subtypeOf b, .subtypeOf c => beq b c
  | .supertypeOf b, .supertypeOf c => beq b c
  | _, _ => false
def beqList [BEq ρ] : List (Expr ρ) → List (Expr ρ) → Bool
  | [], [] => true
  | e :: es, f :: fs => beq e f && beqList es fs
  | _, _ => false
end

instance [BEq ρ] : BEq (Expr ρ) := ⟨beq⟩

/-! ### Normal form -/

mutual
/-- At every argument, an application to nothing becomes the bare symbol. -/
def normalize : Expr ρ → Expr ρ
  | .app a [] => .nominal a
  | .app a (e :: es) => .app a (normalize e :: normalizeList es)
  | e => e
def normalizeList : List (Expr ρ) → List (Expr ρ)
  | [] => []
  | e :: es => normalize e :: normalizeList es
end

theorem normalizeList_eq (es : List (Expr ρ)) : normalizeList es = es.map normalize := by
  induction es with
  | nil => rfl
  | cons e es ih => simp [normalizeList, ih]

end Expr

end TypeShape
