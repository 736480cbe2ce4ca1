import TypeShape.Expr.Argument
import Mathlib.Data.List.Basic

/-!
# The order of argument positions

* `LeftOf p q` — `p` stands to the left of `q`: it is smaller in dictionary order and not above `q`;
* `Earlier p q` — `p` stands to the left of `q` or below it;
* `Expr.pairwise_postorder`: the list of all argument positions is in the order of `Earlier`, so each of
  them occurs once;
* `Expr.filter_postorderFrom`: which positions stand to the left of one in a list of arguments.
-/

namespace TypeShape

/-! ### Left of a position -/

/-- Smaller in dictionary order and no prefix. -/
def LeftOf (p q : List Nat) : Prop := p < q ∧ ¬ p <+: q

instance : DecidableRel LeftOf := fun p q => inferInstanceAs (Decidable (p < q ∧ ¬ p <+: q))

theorem not_leftOf_nil_left (q : List Nat) : ¬ LeftOf [] q :=
  fun h => h.2 (List.nil_prefix)

theorem leftOf_cons_iff {i j : Nat} {p q : List Nat} :
    LeftOf (i :: p) (j :: q) ↔ i < j ∨ i = j ∧ LeftOf p q := by
  rw [LeftOf, LeftOf, List.cons_lt_cons_iff, List.cons_prefix_cons]
  constructor
  · rintro ⟨hij | ⟨rfl, hpq⟩, hne⟩
    · exact Or.inl hij
    · exact Or.inr ⟨rfl, hpq, fun h => hne ⟨rfl, h⟩⟩
  · rintro (hij | ⟨rfl, hpq, hne⟩)
    · exact ⟨Or.inl hij, fun h => Nat.ne_of_lt hij h.1⟩
    · exact ⟨Or.inr ⟨rfl, hpq⟩, fun h => hne h.2⟩

/-- To the left of a position or below it. -/
def Earlier (p q : List Nat) : Prop := LeftOf p q ∨ q <+: p ∧ q ≠ p

theorem Earlier.cons {p q : List Nat} (h : Earlier p q) (i : Nat) : Earlier (i :: p) (i :: q) := by
  rcases h with h | ⟨hpre, hne⟩
  · exact Or.inl (leftOf_cons_iff.2 (Or.inr ⟨rfl, h⟩))
  · exact Or.inr ⟨List.cons_prefix_cons.2 ⟨rfl, hpre⟩, fun h => hne (List.cons.inj h).2⟩

theorem earlier_cons_of_lt {i j : Nat} (h : i < j) (p q : List Nat) : Earlier (i :: p) (j :: q) :=
  Or.inl (leftOf_cons_iff.2 (Or.inl h))

theorem earlier_cons_nil (i : Nat) (p : List Nat) : Earlier (i :: p) [] :=
  Or.inr ⟨List.nil_prefix, (List.cons_ne_nil i p).symm⟩

namespace Expr

variable {ρ : Type}

/-! ### All positions in their order -/

theorem pairwise_postorderFrom_of_forall {es : List (Expr ρ)}
    (h : ∀ e ∈ es, e.postorder.Pairwise Earlier) (k : Nat) :
    (postorderFrom k es).Pairwise Earlier := by
  induction es generalizing k with
  | nil => exact .nil
  | cons e es ih =>
    rw [postorderFrom, List.pairwise_append]
    refine ⟨?_, ih (fun e he => h e (List.mem_cons_of_mem _ he)) (k + 1), ?_⟩
    · rw [List.pairwise_map]
      exact (h e (List.mem_cons_self ..)).imp fun hpq => hpq.cons k
    · intro p hp q hq
      obtain ⟨p', -, rfl⟩ := List.mem_map.1 hp
      obtain ⟨i, q', -, rfl, -, -⟩ := mem_postorderFrom_iff.1 hq
      exact earlier_cons_of_lt (by omega) p' q'

theorem pairwise_postorder (e : Expr ρ) : e.postorder.Pairwise Earlier := by
  induction e using induct with
  | app a as ih =>
    rw [postorder, List.pairwise_append]
    refine ⟨pairwise_postorderFrom_of_forall ih 0, List.pairwise_singleton _ _, ?_⟩
    intro p hp q hq
    obtain ⟨i, p', -, rfl, -, -⟩ := mem_postorderFrom_iff.1 hp
    obtain rfl := List.mem_singleton.1 hq
    exact earlier_cons_nil _ p'
  | _ => exact List.pairwise_singleton _ _

/-! ### Positions to the left of one -/

theorem filter_postorderFrom_eq_nil {es : List (Expr ρ)} {k i : Nat} (h : i < k) (r : List Nat) :
    (postorderFrom k es).filter (LeftOf · (i :: r)) = [] := by
  rw [List.filter_eq_nil_iff]
  intro p hp
  obtain ⟨j, p', -, rfl, -, -⟩ := mem_postorderFrom_iff.1 hp
  rw [decide_eq_true_eq, leftOf_cons_iff]
  omega

theorem filter_map_cons (i : Nat) (r : List Nat) (ps : List (List Nat)) :
    (ps.map (i :: ·)).filter (LeftOf · (i :: r)) = (ps.filter (LeftOf · r)).map (i :: ·) := by
  rw [List.filter_map]
  congr 1
  refine List.filter_congr fun p _ => ?_
  simp [leftOf_cons_iff]

/-- Of the positions in a list of arguments, those in front of an argument stand to the left of all
positions in it, and those behind it do not. -/
theorem filter_postorderFrom (before : List (Expr ρ)) (e : Expr ρ) (behind : List (Expr ρ)) (k : Nat)
    (r : List Nat) :
    (postorderFrom k (before ++ e :: behind)).filter (LeftOf · ((k + before.length) :: r)) =
      postorderFrom k before ++
        (e.postorder.filter (LeftOf · r)).map ((k + before.length) :: ·) := by
  induction before generalizing k with
  | nil =>
    show (e.postorder.map (k :: ·) ++ postorderFrom (k + 1) behind).filter (LeftOf · (k :: r)) = _
    rw [List.filter_append, filter_map_cons, filter_postorderFrom_eq_nil (Nat.lt_succ_self k),
      List.append_nil]
    rfl
  | cons x before ih =>
    have hlen : k + (x :: before).length = k + 1 + before.length := by
      rw [List.length_cons]
      omega
    -- `x` stands in front of the argument, so no position in it is filtered out
    have hx : (x.postorder.map (k :: ·)).filter (LeftOf · ((k + 1 + before.length) :: r)) =
        x.postorder.map (k :: ·) := by
      rw [List.filter_eq_self]
      intro p hp
      obtain ⟨p', -, rfl⟩ := List.mem_map.1 hp
      rw [decide_eq_true_eq, leftOf_cons_iff]
      omega
    rw [hlen, List.cons_append, postorderFrom, postorderFrom, List.filter_append, hx, ih (k + 1),
      List.append_assoc]

end Expr

end TypeShape
