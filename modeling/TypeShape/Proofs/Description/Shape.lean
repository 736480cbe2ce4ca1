import TypeShape.Proofs.Description.Outcome
import TypeShape.Expr.Argument
import Mathlib.Data.List.Forall2

/-!
# The descriptor of an expression

* `Expr.Describable e` — no array, variable or wildcard stands at an argument position of `e`;
* `Descriptor.Describes d e` — `d` and `e` have the same heads in the same places, read off the two
  trees without any description being run;
* `outcome_describeAt_eq_ok_iff`: describing ends in `d` exactly when `d` describes the expression,
  at whatever position the expression stands;
* `exists_describes_iff`: the describable expressions are those that some descriptor describes.

Main statement: `describe_mirrors_arguments`, which expressions can be described, and that walking
through the descriptor of one reaches the same places and the same symbols as walking through it.
-/

namespace TypeShape

variable {ρ : Type}

/-! ### Expressions that can be described -/

namespace Expr

/-- No argument position of the expression holds a form that no descriptor holds. -/
def Describable (e : Expr ρ) : Prop := ∀ p c, e.at? p = some c → c.refusal? = none

theorem refusal?_eq_none_iff {e : Expr ρ} :
    e.refusal? = none ↔ (∃ a, e = .nominal a) ∨ ∃ a as, e = .app a as := by
  cases e <;> simp [refusal?]

/-- A refused form has no argument positions below it. -/
theorem at?_of_refusal? {e c : Expr ρ} {form : Refusal} (h : e.refusal? = some form) {p : List Nat}
    (hc : e.at? p = some c) : p = [] ∧ c = e := by
  cases p with
  | nil => exact ⟨rfl, by simpa using hc.symm⟩
  | cons i q =>
    have : e.arguments = [] := by cases e <;> simp_all [refusal?, arguments]
    simp [this] at hc

theorem not_describable_of_refusal? {e : Expr ρ} {form : Refusal} (h : e.refusal? = some form) :
    ¬ e.Describable := by
  intro hd
  have := hd [] e rfl
  rw [h] at this
  cases this

theorem describable_nominal (a : ρ) : (nominal a).Describable := by
  intro p c hc
  cases p with
  | nil => obtain rfl : nominal a = c := by simpa using hc
           rfl
  | cons i q => simp [arguments] at hc

theorem describable_app_iff {a : ρ} {as : List (Expr ρ)} :
    (app a as).Describable ↔ ∀ e ∈ as, e.Describable := by
  constructor
  · intro h e he p c hc
    obtain ⟨i, hi⟩ := List.mem_iff_getElem?.1 he
    exact h (i :: p) c (by simpa [arguments, hi] using hc)
  · intro h p c hc
    cases p with
    | nil => obtain rfl : app a as = c := by simpa using hc
             rfl
    | cons i q =>
      simp only [at?_cons, arguments] at hc
      obtain ⟨e, hi, he⟩ := Option.bind_eq_some_iff.1 hc
      exact h e (List.mem_of_getElem? hi) q c he

end Expr

/-! ### Related lists -/

theorem exists_forall₂ {α β : Type} {R : α → β → Prop} {m : List β} (h : ∀ b ∈ m, ∃ a, R a b) :
    ∃ l, List.Forall₂ R l m := by
  induction m with
  | nil => exact ⟨[], .nil⟩
  | cons b m ih =>
    obtain ⟨a, hab⟩ := h b (List.mem_cons_self ..)
    obtain ⟨l, hl⟩ := ih fun b hb => h b (List.mem_cons_of_mem _ hb)
    exact ⟨a :: l, .cons hab hl⟩

theorem rel_getElem? {α β : Type} {R : α → β → Prop} {l : List α} {m : List β}
    (h : List.Forall₂ R l m) (i : Nat) : Option.Rel R l[i]? m[i]? := by
  induction h generalizing i with
  | nil => exact .none
  | cons hab _ ih =>
    cases i with
    | zero => exact .some hab
    | succ i => simpa using ih i

theorem exists_mem_of_forall₂ {α β : Type} {R : α → β → Prop} {l : List α} {m : List β}
    (h : List.Forall₂ R l m) {a : α} (ha : a ∈ l) : ∃ b ∈ m, R a b := by
  obtain ⟨i, hi⟩ := List.mem_iff_getElem?.1 ha
  have hr := rel_getElem? h i
  rw [hi] at hr
  cases hb : m[i]? with
  | none => rw [hb] at hr; cases hr
  | some b =>
    rw [hb] at hr
    cases hr with
    | some hab => exact ⟨b, List.mem_of_getElem? hb, hab⟩

theorem forall₂_imp_of_mem {α β : Type} {R S : α → β → Prop} {l : List α} {m : List β}
    (h : List.Forall₂ R l m) (hS : ∀ b ∈ m, ∀ a, R a b → S a b) : List.Forall₂ S l m := by
  induction h with
  | nil => exact .nil
  | @cons a b l m hab _ ih =>
    exact .cons (hS b (List.mem_cons_self ..) a hab)
      (ih fun b hb => hS b (List.mem_cons_of_mem _ hb))

theorem forall_mem_iff_of_forall₂ {α β : Type} {P : α → Prop} {Q : β → Prop} {l : List α}
    {m : List β} (h : List.Forall₂ (fun a b => P a ↔ Q b) l m) :
    (∀ a ∈ l, P a) ↔ ∀ b ∈ m, Q b := by
  constructor
  · intro hl b hb
    obtain ⟨a, ha, hab⟩ := exists_mem_of_forall₂ h.flip hb
    exact hab.1 (hl a ha)
  · intro hm a ha
    obtain ⟨b, hb, hab⟩ := exists_mem_of_forall₂ h ha
    exact hab.2 (hm b hb)

/-! ### Descriptors that describe an expression -/

namespace Descriptor

/-- **The descriptor describes the expression**: a nominal type by a descriptor without parameters,
an application by one whose parameters describe the arguments, in order. -/
inductive Describes : Descriptor ρ → Expr ρ → Prop
  | nominal (a : ρ) : Describes (.node a []) (.nominal a)
  | app (a : ρ) {ds : List (Descriptor ρ)} {as : List (Expr ρ)} (h : List.Forall₂ Describes ds as) :
    Describes (.node a ds) (.app a as)

theorem describes_nominal_iff {d : Descriptor ρ} {a : ρ} :
    d.Describes (.nominal a) ↔ d = .node a [] := by
  constructor
  · rintro ⟨⟩; rfl
  · rintro rfl; exact .nominal a

theorem describes_app_iff {d : Descriptor ρ} {a : ρ} {as : List (Expr ρ)} :
    d.Describes (.app a as) ↔ ∃ ds, d = .node a ds ∧ List.Forall₂ Describes ds as := by
  constructor
  · rintro (_ | ⟨_, h⟩)
    exact ⟨_, rfl, h⟩
  · rintro ⟨ds, rfl, h⟩
    exact .app a h

theorem not_describes_of_refusal? {d : Descriptor ρ} {e : Expr ρ} {form : Refusal}
    (h : e.refusal? = some form) : ¬ d.Describes e := by
  rintro (_ | ⟨_, _⟩) <;> simp [Expr.refusal?] at h

namespace Describes

variable {d : Descriptor ρ} {e : Expr ρ}

/-- Induction on the two trees at once. -/
theorem induct {motive : Descriptor ρ → Expr ρ → Prop}
    (nominal : ∀ a, motive (.node a []) (.nominal a))
    (app : ∀ a ds as, List.Forall₂ motive ds as → motive (.node a ds) (.app a as))
    (h : d.Describes e) : motive d e := by
  induction e using Expr.induct_form generalizing d with
  | nominal a =>
    obtain rfl := describes_nominal_iff.1 h
    exact nominal a
  | app a as ih =>
    obtain ⟨ds, rfl, hds⟩ := describes_app_iff.1 h
    exact app a ds as (forall₂_imp_of_mem hds fun e he d hd => ih e he hd)
  | refused e form he => exact absurd h (not_describes_of_refusal? he)

theorem head (h : d.Describes e) : e.head? = some d.head := by
  cases h <;> rfl

theorem parameters (h : d.Describes e) : List.Forall₂ Describes d.parameters e.arguments := by
  cases h with
  | nominal a => exact .nil
  | app a h => exact h

/-- Walking through the descriptor keeps step with walking through the expression. -/
theorem rel_at? (h : d.Describes e) (p : List Nat) : Option.Rel Describes (d.at? p) (e.at? p) := by
  induction p generalizing d e with
  | nil => exact .some h
  | cons i p ih =>
    rw [at?_cons, Expr.at?_cons, parameter?]
    have hi := rel_getElem? h.parameters i
    cases hd : d.parameters[i]? with
    | none =>
      rw [hd] at hi
      cases he : e.arguments[i]? with
      | none => exact .none
      | some c => rw [he] at hi; cases hi
    | some x =>
      rw [hd] at hi
      cases he : e.arguments[i]? with
      | none => rw [he] at hi; cases hi
      | some c => rw [he] at hi; cases hi with | some hx => exact ih hx

end Describes

/-- The describable expressions are those that some descriptor describes. -/
theorem exists_describes_iff {e : Expr ρ} : (∃ d, Describes d e) ↔ e.Describable := by
  constructor
  · rintro ⟨d, hd⟩ p c hc
    have hr := hd.rel_at? p
    rw [hc] at hr
    cases hx : d.at? p with
    | none => rw [hx] at hr; cases hr
    | some x =>
      rw [hx] at hr
      cases hr with
      | some hxc => cases hxc <;> rfl
  · intro h
    induction e using Expr.induct_form with
    | nominal a => exact ⟨_, .nominal a⟩
    | app a as ih =>
      have has := Expr.describable_app_iff.1 h
      obtain ⟨ds, hds⟩ := exists_forall₂ fun e he => ih e he (has e he)
      exact ⟨_, .app a hds⟩
    | refused e form he => exact absurd h (Expr.not_describable_of_refusal? he)

end Descriptor

/-! ### What describing ends in -/

theorem outcome_describeArguments_eq_ok_iff_of_forall {es : List (Expr Symbol)}
    (h : ∀ e ∈ es, ∀ p d, (describeAt p e).outcome = .ok d ↔ d.Describes e) (p : Position) (k : Nat)
    (ds : List (Descriptor Symbol)) :
    (describeArguments p k es).outcome = .ok ds ↔ List.Forall₂ Descriptor.Describes ds es := by
  induction es generalizing k ds with
  | nil => simp [describeArguments, Attempt.done, eq_comm]
  | cons e es ih =>
    have he := h e (List.mem_cons_self ..) (p.child k)
    have hes := ih (fun e he => h e (List.mem_cons_of_mem _ he)) (k + 1)
    rw [outcome_describeArguments_cons_eq_ok_iff, List.forall₂_cons_right_iff]
    simp only [he, hes]

/-- Describing an expression ends in the descriptor that describes it, wherever it stands. -/
theorem outcome_describeAt_eq_ok_iff {p : Position} {e : Expr Symbol} {d : Descriptor Symbol} :
    (describeAt p e).outcome = .ok d ↔ d.Describes e := by
  induction e using Expr.induct_form generalizing p d with
  | nominal a =>
    rw [outcome_describeAt_nominal, Descriptor.describes_nominal_iff, Except.ok.injEq, eq_comm]
  | app a as ih =>
    have has := outcome_describeArguments_eq_ok_iff_of_forall (fun e he p d => ih e he) p 0
    rw [outcome_describeAt_app_eq_ok_iff, Descriptor.describes_app_iff]
    simp only [has, and_comm]
  | refused e form h =>
    rw [outcome_describeAt_of_refusal? h]
    simp [Descriptor.not_describes_of_refusal? h]

/-- Describing succeeds for the describable expressions. -/
theorem exists_outcome_describeAt_iff {p : Position} {e : Expr Symbol} :
    (∃ d, (describeAt p e).outcome = .ok d) ↔ e.Describable := by
  simp only [outcome_describeAt_eq_ok_iff, Descriptor.exists_describes_iff]

/-- **What is described, and how the descriptor follows it.** An expression is described exactly when
a nominal type or an application stands at each of its argument positions. Its descriptor then has a
descriptor at the same positions and at no others; the descriptor there has the symbol that heads the
expression there, and its parameters are the descriptors of the arguments, one each and in order. -/
theorem describe_mirrors_arguments (e : Expr Symbol) :
    ((∃ d, (describe e).outcome = .ok d) ↔
      ∀ p c, e.at? p = some c → (∃ a, c = .nominal a) ∨ ∃ a as, c = .app a as) ∧
    ∀ d, (describe e).outcome = .ok d → ∀ p,
      ((d.at? p).isSome ↔ (e.at? p).isSome) ∧
      ∀ x c, d.at? p = some x → e.at? p = some c →
        c.head? = some x.head ∧ x.parameters.length = c.arguments.length ∧
        List.Forall₂ (fun y a => (describe a).outcome = .ok y) x.parameters c.arguments := by
  constructor
  · rw [describe, exists_outcome_describeAt_iff]
    simp only [Expr.Describable, Expr.refusal?_eq_none_iff]
  · intro d hd p
    have hp := (outcome_describeAt_eq_ok_iff.1 hd).rel_at? p
    refine ⟨?_, ?_⟩
    · generalize d.at? p = x at hp
      generalize e.at? p = c at hp
      cases hp <;> simp
    · intro x c hx hc
      rw [hx, hc] at hp
      cases hp with
      | some h =>
        refine ⟨h.head, h.parameters.length_eq, ?_⟩
        exact h.parameters.imp fun y a hya => outcome_describeAt_eq_ok_iff.2 hya

/-- A symbol applied to more arguments than it declares, one of them an application to nothing. -/
theorem describe_mirrors_arguments_of_three :
    let e : Expr Symbol := .app ⟨.numbered 0, "m::Map<_, _>"⟩
      [.nominal ⟨.numbered 1, "u8"⟩, .app ⟨.numbered 2, "m::List<_>"⟩ [.app ⟨.numbered 3, "E"⟩ []],
        .nominal ⟨.numbered 4, "u32"⟩]
    ∃ d x, (describe e).outcome = .ok d ∧ d.at? [1, 0] = some x ∧
      x.head = ⟨.numbered 3, "E"⟩ ∧ x.parameters.length = 0 ∧ d.at? [3] = none := by
  intro e
  obtain ⟨d, hd⟩ : ∃ d, (describe e).outcome = .ok d := ⟨_, rfl⟩
  have h := (describe_mirrors_arguments e).2 d hd
  obtain ⟨x, hx⟩ := Option.isSome_iff_exists.1 ((h [1, 0]).1.2 rfl)
  obtain ⟨hhead, hlength, -⟩ := (h [1, 0]).2 x (.app ⟨.numbered 3, "E"⟩ []) hx rfl
  refine ⟨d, x, hd, hx, (Option.some.inj hhead).symm, hlength, ?_⟩
  cases h3 : d.at? [3] with
  | none => rfl
  | some y => exact absurd ((h [3]).1.1 (by rw [h3]; rfl)) (by simp [e, Expr.arguments])

end TypeShape
