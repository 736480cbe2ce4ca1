import TypeShape.Expr.Basic

/-!
# Argument positions

An argument position is a list of indices that can be walked from the root of an expression through
the arguments of its applications. Nothing below an array, a variable or a wildcard is an argument
position.

* `Expr.at?`: the expression at an argument position; `at?_append` walks on, `at?_map` walks through
  other heads.
* `Expr.replaceAt`: another expression in its place; `at?_replaceAt` finds it there again.
* `Expr.postorder`: all argument positions, arguments before the application they belong to;
  `mem_postorder_iff` says that they are those where there is an expression.
-/

namespace TypeShape

namespace Expr

variable {ρ σ : Type}

/-! ### Walking -/

/-- The expression reached by walking through arguments. -/
def at? : List Nat → Expr ρ → Option (Expr ρ)
  | [], e => some e
  | index :: indices, e => e.arguments[index]?.bind (at? indices)

@[simp] theorem at?_nil (e : Expr ρ) : e.at? [] = some e := rfl

@[simp] theorem at?_cons (index : Nat) (indices : List Nat) (e : Expr ρ) :
    e.at? (index :: indices) = e.arguments[index]?.bind (at? indices) := rfl

theorem at?_append (p q : List Nat) (e : Expr ρ) :
    e.at? (p ++ q) = (e.at? p).bind (at? q) := by
  induction p generalizing e with
  | nil => rfl
  | cons index p ih =>
    rw [List.cons_append, at?_cons, at?_cons]
    cases e.arguments[index]? with
    | none => rfl
    | some c => exact ih c

theorem arguments_map (f : ρ → σ) (e : Expr ρ) : (e.map f).arguments = e.arguments.map (map f) := by
  cases e <;> simp [arguments, map, mapList_eq]

theorem at?_map (f : ρ → σ) (p : List Nat) (e : Expr ρ) :
    (e.map f).at? p = (e.at? p).map (map f) := by
  induction p generalizing e with
  | nil => rfl
  | cons index p ih =>
    rw [at?_cons, at?_cons, arguments_map, List.getElem?_map]
    cases e.arguments[index]? with
    | none => rfl
    | some c => exact ih c

/-! ### Replacing -/

/-- The expression with another one at an argument position, itself if there is no such position. -/
def replaceAt : List Nat → Expr ρ → Expr ρ → Expr ρ
  | [], new, _ => new
  | index :: indices, new, .app a as => .app a (as.modify index (replaceAt indices new))
  | _ :: _, _, e => e

@[simp] theorem replaceAt_nil (new e : Expr ρ) : replaceAt [] new e = new := by
  cases e <;> rfl

theorem arguments_replaceAt_cons (index : Nat) (indices : List Nat) (new e : Expr ρ) :
    (replaceAt (index :: indices) new e).arguments =
      e.arguments.modify index (replaceAt indices new) := by
  cases e <;> simp [replaceAt, arguments]

theorem at?_replaceAt {p : List Nat} {e : Expr ρ} (new : Expr ρ) (h : (e.at? p).isSome) :
    (replaceAt p new e).at? p = some new := by
  induction p generalizing e with
  | nil => simp
  | cons index p ih =>
    rw [at?_cons] at h
    rw [at?_cons, arguments_replaceAt_cons, List.getElem?_modify_eq]
    cases hc : e.arguments[index]? with
    | none => simp [hc] at h
    | some c => exact ih (by simpa [hc] using h)

/-! ### All argument positions -/

mutual
/-- The argument positions of an expression, arguments first. -/
def postorder : Expr ρ → List (List Nat)
  | .app _ as => postorderFrom 0 as ++ [[]]
  | _ => [[]]
/-- The argument positions below arguments that are counted from an index on. -/
def postorderFrom (index : Nat) : List (Expr ρ) → List (List Nat)
  | [] => []
  | e :: es => (postorder e).map (index :: ·) ++ postorderFrom (index + 1) es
end

theorem mem_postorderFrom_iff {es : List (Expr ρ)} {index : Nat} {p : List Nat} :
    p ∈ postorderFrom index es ↔
      ∃ i q e, p = (index + i) :: q ∧ es[i]? = some e ∧ q ∈ postorder e := by
  induction es generalizing index with
  | nil => simp [postorderFrom]
  | cons e es ih =>
    simp only [postorderFrom, List.mem_append, List.mem_map, ih]
    constructor
    · rintro (⟨q, hq, rfl⟩ | ⟨i, q, c, rfl, hc, hq⟩)
      · exact ⟨0, q, e, rfl, rfl, hq⟩
      · exact ⟨i + 1, q, c, by rw [Nat.add_right_comm, Nat.add_assoc], by simpa using hc, hq⟩
    · rintro ⟨i, q, c, rfl, hc, hq⟩
      cases i with
      | zero =>
        obtain rfl : e = c := by simpa using hc
        exact .inl ⟨q, hq, rfl⟩
      | succ i =>
        exact .inr ⟨i, q, c, by rw [Nat.add_right_comm, Nat.add_assoc], by simpa using hc, hq⟩

theorem mem_postorder_iff {e : Expr ρ} {p : List Nat} : p ∈ e.postorder ↔ (e.at? p).isSome := by
  induction e using induct generalizing p with
  | app a as ih =>
    simp only [postorder, List.mem_append, mem_postorderFrom_iff, List.mem_singleton]
    constructor
    · rintro (⟨i, q, c, rfl, hc, hq⟩ | rfl)
      · have hs := (ih c (List.mem_of_getElem? hc)).1 hq
        simpa [arguments, hc] using hs
      · rfl
    · intro h
      cases p with
      | nil => exact .inr rfl
      | cons i q =>
        simp only [at?_cons, arguments] at h
        cases hc : as[i]? with
        | none => simp [hc] at h
        | some c =>
          have hs : (c.at? q).isSome := by simpa [hc] using h
          exact .inl ⟨i, q, c, by simp, hc, (ih c (List.mem_of_getElem? hc)).2 hs⟩
  | _ =>
    cases p with
    | nil => simp [postorder]
    | cons i q => simp [postorder, arguments]

end Expr

end TypeShape
