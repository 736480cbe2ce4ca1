import TypeShape.Proofs.Description.Shape
import TypeShape.Proofs.Equality

/-!
# Descriptors and normal forms

A descriptor describes the expression it is turned back into, and of all the expressions it describes
that one is in normal form.

* `Expr.at?_normalize`: a normal form has the argument positions of its expression;
* `describes_toExpr`, `Describes.toExpr_eq`, `Describes.unique`: an expression has one descriptor at
  most, and the descriptor turned back is the normal form of the expression;
* `toExpr_injective`, `map_toExpr`: nothing is lost on the way back, and other heads come along;
* `Describes.beq_iff_normalize`: two descriptors are equal when the normal forms of what they describe
  are.

Main statement: `describe_forgets_only_empty_applications`.
-/

namespace TypeShape

/-! ### Normal forms keep their positions -/

namespace Expr

variable {ρ : Type}

theorem arguments_normalize (e : Expr ρ) : e.normalize.arguments = e.arguments.map normalize := by
  cases e with
  | app a as => cases as <;> simp [normalize, normalizeList_eq, arguments]
  | _ => rfl

theorem at?_normalize (p : List Nat) (e : Expr ρ) : e.normalize.at? p = (e.at? p).map normalize := by
  induction p generalizing e with
  | nil => rfl
  | cons index p ih =>
    rw [at?_cons, at?_cons, arguments_normalize, List.getElem?_map]
    cases e.arguments[index]? with
    | none => rfl
    | some c => exact ih c

end Expr

namespace Descriptor

variable {ρ σ : Type}

/-! ### There and back -/

theorem toExpr_node_cons (a : ρ) (d : Descriptor ρ) (ds : List (Descriptor ρ)) :
    (node a (d :: ds)).toExpr = .app a ((d :: ds).map toExpr) := by
  simp [toExpr, toExprList_eq]

theorem forall₂_map_right {ds : List (Descriptor ρ)} (h : ∀ d ∈ ds, d.Describes d.toExpr) :
    List.Forall₂ Describes ds (ds.map toExpr) := by
  rw [List.forall₂_map_right_iff, List.forall₂_same]
  exact h

theorem describes_toExpr (d : Descriptor ρ) : d.Describes d.toExpr := by
  induction d using induct with
  | node a ds ih =>
    cases ds with
    | nil => exact .nominal a
    | cons d ds =>
      rw [toExpr_node_cons]
      exact .app a (forall₂_map_right ih)

namespace Describes

theorem map_toExpr_eq {ds : List (Descriptor ρ)} {as : List (Expr ρ)}
    (h : List.Forall₂ Describes ds as) (ih : ∀ e ∈ as, ∀ d, Describes d e → d.toExpr = e.normalize) :
    ds.map toExpr = as.map Expr.normalize := by
  induction h with
  | nil => rfl
  | @cons d e ds as hde _ ihs =>
    have he := ih e (List.mem_cons_self ..) d hde
    have has := ihs fun e he => ih e (List.mem_cons_of_mem _ he)
    rw [List.map_cons, List.map_cons, he, has]

/-- Turned back, the descriptor of an expression is the normal form of the expression. -/
theorem toExpr_eq {d : Descriptor ρ} {e : Expr ρ} (h : d.Describes e) : d.toExpr = e.normalize := by
  induction e using Expr.induct_form generalizing d with
  | nominal a =>
    obtain rfl := describes_nominal_iff.1 h
    rfl
  | app a as ih =>
    obtain ⟨ds, rfl, hds⟩ := describes_app_iff.1 h
    have hmap := map_toExpr_eq hds fun e he d => ih e he
    cases hds with
    | nil => rfl
    | @cons d e ds as _ _ =>
      rw [toExpr_node_cons, hmap]
      simp [Expr.normalize, Expr.normalizeList_eq]
  | refused e form he => exact absurd h (not_describes_of_refusal? he)

theorem forall₂_unique {ds ds' : List (Descriptor ρ)} {as : List (Expr ρ)}
    (h : List.Forall₂ Describes ds as) (h' : List.Forall₂ Describes ds' as)
    (ih : ∀ e ∈ as, ∀ d d', Describes d e → Describes d' e → d = d') : ds = ds' := by
  induction h generalizing ds' with
  | nil => cases h'; rfl
  | @cons d e ds as hde _ ihs =>
    obtain ⟨d', ds', hde', has', rfl⟩ := List.forall₂_cons_right_iff.1 h'
    rw [ih e (List.mem_cons_self ..) d d' hde hde',
      ihs has' fun e he => ih e (List.mem_cons_of_mem _ he)]

theorem unique {d d' : Descriptor ρ} {e : Expr ρ} (h : d.Describes e) (h' : d'.Describes e) :
    d = d' := by
  induction e using Expr.induct_form generalizing d d' with
  | nominal a => rw [describes_nominal_iff.1 h, describes_nominal_iff.1 h']
  | app a as ih =>
    obtain ⟨ds, rfl, hds⟩ := describes_app_iff.1 h
    obtain ⟨ds', rfl, hds'⟩ := describes_app_iff.1 h'
    rw [forall₂_unique hds hds' fun e he d d' => ih e he]
  | refused e form he => exact absurd h (not_describes_of_refusal? he)

end Describes

theorem toExpr_injective {d d' : Descriptor ρ} (h : d.toExpr = d'.toExpr) : d = d' :=
  (describes_toExpr d).unique (h ▸ describes_toExpr d')

/-- What replaces the heads of nominal types and of applications with arguments does so below every
descriptor turned back. -/
theorem toExpr_map_of_forall {f : ρ → σ} {g : Expr ρ → Expr σ}
    (hnominal : ∀ a, g (.nominal a) = .nominal (f a))
    (happ : ∀ a e es, g (.app a (e :: es)) = .app (f a) ((e :: es).map g)) (d : Descriptor ρ) :
    g d.toExpr = (d.map f).toExpr := by
  induction d using induct with
  | node a ds ih =>
    cases ds with
    | nil => rw [map_node, List.map_nil, toExpr, toExpr, hnominal]
    | cons d ds =>
      have hparameters : ((d :: ds).map toExpr).map g = ((d :: ds).map (map f)).map toExpr := by
        rw [List.map_map, List.map_map]
        exact List.map_congr_left ih
      rw [toExpr_node_cons, List.map_cons, happ, ← List.map_cons, hparameters, map_node]
      exact (toExpr_node_cons (f a) (d.map f) (ds.map (map f))).symm

theorem map_toExpr (f : ρ → σ) (d : Descriptor ρ) : d.toExpr.map f = (d.map f).toExpr :=
  toExpr_map_of_forall (g := Expr.map f) (fun _ => rfl)
    (fun a e es => Expr.map_app f a (e :: es)) d

/-! ### Equality of what is described -/

/-- Two descriptors are equal exactly when the normal forms of what they describe are. -/
theorem Describes.beq_iff_normalize {d d' : Descriptor Symbol} {e e' : Expr Symbol}
    (h : d.Describes e) (h' : d'.Describes e') :
    (d == d') = true ↔ (e.normalize == e'.normalize) = true := by
  rw [beq_iff, Expr.beq_iff, ← h.toExpr_eq, ← h'.toExpr_eq, map_toExpr, map_toExpr]
  exact ⟨congrArg toExpr, toExpr_injective⟩

end Descriptor

/-- **Describing forgets nothing but empty applications.** A normal form has the normal form of each
argument in its place. Descriptors are equal exactly when the normal forms of the described
expressions are. A descriptor turned back is described by that same descriptor, full names included,
and what it is turned back into is the normal form of whatever it came from. -/
theorem describe_forgets_only_empty_applications :
    (∀ (e : Expr Symbol) p, e.normalize.at? p = (e.at? p).map Expr.normalize) ∧
    (∀ e e' d d', (describe e).outcome = .ok d → (describe e').outcome = .ok d' →
      ((d == d') = true ↔ (e.normalize == e'.normalize) = true)) ∧
    (∀ d, (describe d.toExpr).outcome = .ok d) ∧
    ∀ e d, (describe e).outcome = .ok d → d.toExpr = e.normalize := by
  refine ⟨fun e p => e.at?_normalize p, ?_, ?_, ?_⟩
  · intro e e' d d' hd hd'
    rw [describe, outcome_describeAt_eq_ok_iff] at hd hd'
    exact hd.beq_iff_normalize hd'
  · intro d
    rw [describe, outcome_describeAt_eq_ok_iff]
    exact Descriptor.describes_toExpr d
  · intro e d hd
    rw [describe, outcome_describeAt_eq_ok_iff] at hd
    exact hd.toExpr_eq

/-- Two expressions that differ in an empty application and in a full name, both below an argument,
have equal descriptors; the second one is in normal form already. -/
theorem describe_forgets_only_empty_applications_below_list :
    let list (e : Expr Symbol) : Expr Symbol := .app ⟨.numbered 0, "m::List<_>"⟩ [e]
    let e := list (list (.app ⟨.numbered 1, "m::Unit"⟩ []))
    let e' := list (list (.nominal ⟨.numbered 1, "n::Unit"⟩))
    ∃ d d', (describe e).outcome = .ok d ∧ (describe e').outcome = .ok d' ∧ (e == e') = false ∧
      (d == d') = true ∧ d'.toExpr = e' ∧ d.toExpr ≠ e := by
  intro list e e'
  obtain ⟨d, hd⟩ : ∃ d, (describe e).outcome = .ok d := ⟨_, rfl⟩
  obtain ⟨d', hd'⟩ : ∃ d', (describe e').outcome = .ok d' := ⟨_, rfl⟩
  obtain ⟨-, hbeq, -, hback⟩ := describe_forgets_only_empty_applications
  refine ⟨d, d', hd, hd', by rfl, (hbeq e e' d d' hd hd').2 (by rfl), hback e' d' hd', ?_⟩
  rw [hback e d hd]
  simp [e, list, Expr.normalize, Expr.normalizeList]

end TypeShape
