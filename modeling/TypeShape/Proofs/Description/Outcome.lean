import TypeShape.Description.Basic

/-!
# How a description ends

What a description reports on the way is left aside here. `Expr.induct_form` is the induction that
follows a description; `outcome_describeReferences_eq_error_iff` says which of several references
decides: the first one that fails.
-/

namespace TypeShape

/-! ### The forms of an expression -/

/-- Induction on the part of an expression that is described: whatever is inside a refused form is
not looked at. -/
@[elab_as_elim]
theorem Expr.induct_form {ρ : Type} {motive : Expr ρ → Prop} (nominal : ∀ a, motive (.nominal a))
    (app : ∀ a as, (∀ e ∈ as, motive e) → motive (.app a as))
    (refused : ∀ e form, e.refusal? = some form → motive e) (e : Expr ρ) : motive e := by
  induction e using Expr.induct with
  | nominal a => exact nominal a
  | app a as ih => exact app a as ih
  | _ => exact refused _ _ rfl

/-! ### One attempt after another -/

namespace Attempt

variable {α β : Type} {attempt : Attempt α} {b : β} {error : DescribeError}

theorem outcome_map_eq_ok_iff {f : α → β} :
    (attempt.map f).outcome = .ok b ↔ ∃ a, attempt.outcome = .ok a ∧ b = f a := by
  obtain ⟨events, outcome⟩ := attempt
  cases outcome <;> simp [map, Except.map, eq_comm]

theorem outcome_map_eq_error_iff {f : α → β} :
    (attempt.map f).outcome = .error error ↔ attempt.outcome = .error error := by
  obtain ⟨events, outcome⟩ := attempt
  cases outcome <;> simp [map, Except.map]

theorem outcome_bind_eq_ok_iff {next : α → Attempt β} :
    (attempt.bind next).outcome = .ok b ↔
      ∃ a, attempt.outcome = .ok a ∧ (next a).outcome = .ok b := by
  obtain ⟨events, outcome⟩ := attempt
  cases outcome <;> simp [bind]

theorem outcome_bind_eq_error_iff {next : α → Attempt β} :
    (attempt.bind next).outcome = .error error ↔
      attempt.outcome = .error error ∨
        ∃ a, attempt.outcome = .ok a ∧ (next a).outcome = .error error := by
  obtain ⟨events, outcome⟩ := attempt
  cases outcome <;> simp [bind]

end Attempt

/-! ### One expression -/

theorem outcome_describeAt_nominal (p : Position) (a : Symbol) :
    (describeAt p (.nominal a)).outcome = .ok (.node a []) := by
  rw [describeAt, Attempt.outcome_reporting]
  rfl

theorem outcome_describeAt_app_eq_ok_iff {p : Position} {a : Symbol} {as : List (Expr Symbol)}
    {d : Descriptor Symbol} :
    (describeAt p (.app a as)).outcome = .ok d ↔
      ∃ ds, (describeArguments p 0 as).outcome = .ok ds ∧ d = .node a ds := by
  rw [describeAt, Attempt.outcome_reporting, Attempt.outcome_map_eq_ok_iff]

theorem outcome_describeAt_app (p : Position) (a : Symbol) (as : List (Expr Symbol)) :
    (describeAt p (.app a as)).outcome = (describeApplication a (as.map some) p).outcome := by
  rw [describeAt, Attempt.outcome_reporting, describeApplication, describeArguments_eq]

theorem outcome_describeAt_of_refusal? {e : Expr Symbol} {form : Refusal}
    (h : e.refusal? = some form) (p : Position) :
    (describeAt p e).outcome = .error (.unsupported form (e.render .short) p) := by
  rw [describeAt_eq_classify, classify_of_refusal? h]
  rfl

/-! ### Several expressions -/

theorem outcome_describeArguments_cons_eq_ok_iff {p : Position} {k : Nat} {e : Expr Symbol}
    {es : List (Expr Symbol)} {ds : List (Descriptor Symbol)} :
    (describeArguments p k (e :: es)).outcome = .ok ds ↔
      ∃ d ds', (describeAt (p.child k) e).outcome = .ok d ∧
        (describeArguments p (k + 1) es).outcome = .ok ds' ∧ ds = d :: ds' := by
  rw [describeArguments, Attempt.outcome_bind_eq_ok_iff]
  simp only [Attempt.outcome_map_eq_ok_iff, exists_and_left]

theorem outcome_describeReferences_cons_eq_error_iff {p : Position} {k : Nat}
    {r : Option (Expr Symbol)} {rs : List (Option (Expr Symbol))} {error : DescribeError} :
    (describeReferences p k (r :: rs)).outcome = .error error ↔
      (describeReference (p.child k) r).outcome = .error error ∨
        (∃ d, (describeReference (p.child k) r).outcome = .ok d) ∧
          (describeReferences p (k + 1) rs).outcome = .error error := by
  rw [describeReferences, Attempt.outcome_bind_eq_error_iff]
  simp only [Attempt.outcome_map_eq_error_iff, exists_and_right]

/-- **The first failure decides.** References fail with an error exactly when one of them fails with
it and all references in front of that one are described. -/
theorem outcome_describeReferences_eq_error_iff {p : Position} {k : Nat}
    {rs : List (Option (Expr Symbol))} {error : DescribeError} :
    (describeReferences p k rs).outcome = .error error ↔
      ∃ i r, rs[i]? = some r ∧ (describeReference (p.child (k + i)) r).outcome = .error error ∧
        ∀ j < i, ∃ s d, rs[j]? = some s ∧
          (describeReference (p.child (k + j)) s).outcome = .ok d := by
  induction rs generalizing k with
  | nil => simp [describeReferences, Attempt.done]
  | cons r rs ih =>
    rw [outcome_describeReferences_cons_eq_error_iff, ih]
    constructor
    · rintro (hr | ⟨⟨d, hd⟩, i, s, hs, he, hbefore⟩)
      · exact ⟨0, r, rfl, hr, by simp⟩
      · refine ⟨i + 1, s, by simpa using hs, by rwa [Nat.add_right_comm] at he, ?_⟩
        intro j hj
        cases j with
        | zero => exact ⟨r, d, rfl, hd⟩
        | succ j =>
          obtain ⟨s', d', hs', hd'⟩ := hbefore j (Nat.lt_of_succ_lt_succ hj)
          exact ⟨s', d', by simpa using hs', by rwa [Nat.add_right_comm] at hd'⟩
    · rintro ⟨i, s, hs, he, hbefore⟩
      cases i with
      | zero =>
        obtain rfl : r = s := by simpa using hs
        exact Or.inl he
      | succ i =>
        -- the head stands in front of the one that fails, so it is described
        obtain ⟨s', d, hs', hd⟩ := hbefore 0 (Nat.succ_pos i)
        obtain rfl : r = s' := by simpa using hs'
        refine Or.inr ⟨⟨d, hd⟩, i, s, by simpa using hs, by rwa [Nat.add_right_comm], ?_⟩
        intro j hj
        obtain ⟨s', d', hs', hd'⟩ := hbefore (j + 1) (Nat.succ_lt_succ hj)
        exact ⟨s', d', by simpa using hs', by rwa [Nat.add_right_comm]⟩

/-! ### Applications -/

theorem outcome_describeApplication_eq_error_iff_references {a : Symbol}
    {rs : List (Option (Expr Symbol))} {p : Position} {error : DescribeError} :
    (describeApplication a rs p).outcome = .error error ↔
      (describeReferences p 0 rs).outcome = .error error :=
  Attempt.outcome_map_eq_error_iff

end TypeShape
