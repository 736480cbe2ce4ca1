import TypeShape.Descriptor.Basic

/-!
# Equality of trees

Expressions and descriptors are compared with `==` at their heads. Where `==` of two heads means that
some part of them is the same, `==` of two trees means that the trees of these parts are the same:
`Expr.beq_iff_map_eq` and `Descriptor.beq_iff_map_eq`. For symbols that part is the identity, and the
full names drop out: `Expr.beq_iff`, `Descriptor.beq_iff`.
-/

namespace TypeShape

section Heads

variable {ρ σ : Type} [BEq ρ] {f : ρ → σ}

/-! ### Expressions -/

namespace Expr

theorem beqList_iff_of_forall {es : List (Expr ρ)}
    (h : ∀ e ∈ es, ∀ e', beq e e' = true ↔ e.map f = e'.map f) (es' : List (Expr ρ)) :
    beqList es es' = true ↔ es.map (map f) = es'.map (map f) := by
  induction es generalizing es' with
  | nil => cases es' <;> simp [beqList]
  | cons e es ih =>
    have hes := ih fun e he => h e (List.mem_cons_of_mem _ he)
    cases es' with
    | nil => simp [beqList]
    | cons e' es' =>
      simp only [beqList, Bool.and_eq_true, List.map_cons, List.cons.injEq]
      rw [h e (List.mem_cons_self ..) e', hes es']

/-- `==` of two expressions is equality of the trees of what `==` looks at. -/
theorem beq_iff_map_eq (hf : ∀ a b : ρ, (a == b) = true ↔ f a = f b) (e e' : Expr ρ) :
    (e == e') = true ↔ e.map f = e'.map f := by
  show beq e e' = true ↔ _
  induction e using induct generalizing e' with
  | nominal a => cases e' <;> simp [beq, map, hf]
  | app a as ih =>
    have has := beqList_iff_of_forall ih
    cases e' <;> simp [beq, map, hf, has, mapList_eq]
  | array c n ih => cases e' <;> simp [beq, map, ih]
  | freeVar x => cases e' <;> simp [beq, map]
  | anything => cases e' <;> simp [beq, map]
  | subtypeOf b ih => cases e' <;> simp [beq, map, ih]
  | supertypeOf b ih => cases e' <;> simp [beq, map, ih]

end Expr

/-! ### Descriptors -/

namespace Descriptor

theorem beqList_iff_of_forall {ds : List (Descriptor ρ)}
    (h : ∀ d ∈ ds, ∀ d', beq d d' = true ↔ d.map f = d'.map f) (ds' : List (Descriptor ρ)) :
    beqList ds ds' = true ↔ ds.map (map f) = ds'.map (map f) := by
  induction ds generalizing ds' with
  | nil => cases ds' <;> simp [beqList]
  | cons d ds ih =>
    have hds := ih fun d hd => h d (List.mem_cons_of_mem _ hd)
    cases ds' with
    | nil => simp [beqList]
    | cons d' ds' =>
      simp only [beqList, Bool.and_eq_true, List.map_cons, List.cons.injEq]
      rw [h d (List.mem_cons_self ..) d', hds ds']

/-- `==` of two descriptors is equality of the trees of what `==` looks at. -/
theorem beq_iff_map_eq (hf : ∀ a b : ρ, (a == b) = true ↔ f a = f b) (d d' : Descriptor ρ) :
    (d == d') = true ↔ d.map f = d'.map f := by
  show beq d d' = true ↔ _
  induction d using induct generalizing d' with
  | node a ds ih =>
    obtain ⟨a', ds'⟩ := d'
    rw [beq, Bool.and_eq_true, hf, beqList_iff_of_forall ih, map_node, map_node, node.injEq]

end Descriptor

end Heads

/-! ### Trees of symbols -/

theorem Expr.beq_iff (e e' : Expr Symbol) :
    (e == e') = true ↔ e.map Symbol.identity = e'.map Symbol.identity :=
  Expr.beq_iff_map_eq Symbol.beq_iff e e'

theorem Descriptor.beq_iff (d d' : Descriptor Symbol) :
    (d == d') = true ↔ d.map Symbol.identity = d'.map Symbol.identity :=
  Descriptor.beq_iff_map_eq Symbol.beq_iff d d'

end TypeShape
