import TypeShape.Proofs.Description.Shape

/-!
# The first refused form

* `Expr.FirstRefused e q c` — `c` has a form that no descriptor holds, it stands at the argument
  position `q` of `e`, and no other such form stands in front of it in dictionary order;
* `firstRefused_app_iff`: in an application it is the first one of the first argument that cannot be
  described;
* `outcome_describeAt_eq_error_iff`: describing fails with exactly this one, named with its form, its
  short rendering and its position;
* `outcome_describeAt`: an expression that stands below a position is described as at the root, with
  the positions of its errors counted from there.

Main statement: `describe_fails_with_first_refused`.
-/

namespace TypeShape

variable {ρ : Type}

/-! ### First in dictionary order -/

namespace Expr

/-- **The first refused form** of an expression, in the dictionary order of argument positions. -/
structure FirstRefused (e : Expr ρ) (q : List Nat) (c : Expr ρ) : Prop where
  stands : e.at? q = some c
  refused : c.refusal? ≠ none
  /-- All other refused forms stand later. -/
  least : ∀ q' c', e.at? q' = some c' → c'.refusal? ≠ none → q' = q ∨ List.Lex (· < ·) q q'

theorem not_firstRefused_of_describable {e c : Expr ρ} {q : List Nat} (h : e.Describable) :
    ¬ e.FirstRefused q c :=
  fun hf => hf.refused (h q c hf.stands)

theorem firstRefused_iff_of_refusal? {e c : Expr ρ} {q : List Nat} {form : Refusal}
    (h : e.refusal? = some form) : e.FirstRefused q c ↔ q = [] ∧ c = e := by
  constructor
  · intro hf
    exact at?_of_refusal? h hf.stands
  · rintro ⟨rfl, rfl⟩
    refine ⟨rfl, by simp [h], fun q' c' hc' _ => Or.inl ?_⟩
    exact (at?_of_refusal? h hc').1

theorem firstRefused_app_iff {a : ρ} {as : List (Expr ρ)} {q : List Nat} {c : Expr ρ} :
    (app a as).FirstRefused q c ↔
      ∃ i r e, q = i :: r ∧ as[i]? = some e ∧ e.FirstRefused r c ∧
        ∀ j < i, ∀ e', as[j]? = some e' → e'.Describable := by
  constructor
  · intro h
    have hc := h.stands
    cases q with
    | nil =>
      obtain rfl : app a as = c := by simpa using hc
      exact absurd rfl h.refused
    | cons i r =>
      simp only [at?_cons, arguments] at hc
      obtain ⟨e, hi, hr⟩ := Option.bind_eq_some_iff.1 hc
      refine ⟨i, r, e, rfl, hi, ⟨hr, h.refused, ?_⟩, ?_⟩
      · intro q' c' hq' hc'
        rcases h.least (i :: q') c' (by simpa [arguments, hi] using hq') hc' with heq | hlt
        · exact Or.inl (List.cons.inj heq).2
        · rcases List.cons_lex_cons_iff.1 hlt with hii | ⟨-, hlt⟩
          · exact absurd hii (Nat.lt_irrefl i)
          · exact Or.inr hlt
      · intro j hj e' he' p c' hc'
        by_contra hne
        rcases h.least (j :: p) c' (by simpa [arguments, he'] using hc') hne with heq | hlt
        · have := (List.cons.inj heq).1
          omega
        · rcases List.cons_lex_cons_iff.1 hlt with hij | ⟨hij, -⟩ <;> omega
  · rintro ⟨i, r, e, rfl, hi, hf, hbefore⟩
    refine ⟨by simpa [arguments, hi] using hf.stands, hf.refused, ?_⟩
    intro q' c' hq' hc'
    cases q' with
    | nil =>
      obtain rfl : app a as = c' := by simpa using hq'
      exact absurd rfl hc'
    | cons j p =>
      simp only [at?_cons, arguments] at hq'
      obtain ⟨e', hj, hp⟩ := Option.bind_eq_some_iff.1 hq'
      rcases Nat.lt_trichotomy j i with hji | rfl | hij
      · exact absurd (hbefore j hji e' hj p c' hp) hc'
      · obtain rfl : e = e' := Option.some.inj (hi.symm.trans hj)
        rcases hf.least p c' hp hc' with rfl | hlt
        · exact Or.inl rfl
        · exact Or.inr (List.cons_lex_cons_iff.2 (Or.inr ⟨rfl, hlt⟩))
      · exact Or.inr (List.cons_lex_cons_iff.2 (Or.inl hij))

namespace FirstRefused

variable {e c : Expr ρ} {q : List Nat}

/-- Only applications are walked through on the way to the first refused form, so it is never inside
an array or behind the bound of a wildcard. -/
theorem app_of_prefix (h : e.FirstRefused q c) {p r : List Nat} {i : Nat} (hq : q = p ++ i :: r) :
    ∃ a as, e.at? p = some (.app a as) := by
  have hc := h.stands
  rw [hq, at?_append] at hc
  obtain ⟨x, hx, hxc⟩ := Option.bind_eq_some_iff.1 hc
  cases x with
  | app a as => exact ⟨a, as, hx⟩
  | _ => simp [arguments] at hxc

/-- A refused form in an argument keeps all later arguments from being reported, however deep it
is. -/
theorem ne_of_refused_before (h : e.FirstRefused q c) {p r : List Nat} {i : Nat} {x : Expr ρ}
    (hx : e.at? (p ++ i :: r) = some x) (hne : x.refusal? ≠ none) {j : Nat} (hij : i < j)
    (s : List Nat) : q ≠ p ++ j :: s := by
  rintro rfl
  have key : p ++ i :: r = p ++ j :: s ∨ List.Lex (· < ·) (p ++ j :: s) (p ++ i :: r) :=
    h.least _ x hx hne
  clear hx h
  induction p with
  | nil =>
    rcases key with heq | hlt
    · have := (List.cons.inj heq).1
      omega
    · rcases List.cons_lex_cons_iff.1 hlt with hji | ⟨hji, -⟩ <;> omega
  | cons k p ih =>
    apply ih
    rcases key with heq | hlt
    · exact Or.inl (List.cons.inj heq).2
    · rcases List.cons_lex_cons_iff.1 hlt with hkk | ⟨-, hlt⟩
      · exact absurd hkk (Nat.lt_irrefl k)
      · exact Or.inr hlt

end FirstRefused

end Expr

/-! ### What a failing description reports -/

/-- Describing an expression fails with its first refused form, counted from where it stands. -/
theorem outcome_describeAt_eq_error_iff {p : Position} {e : Expr Symbol} {error : DescribeError} :
    (describeAt p e).outcome = .error error ↔
      ∃ q c form, e.FirstRefused q c ∧ c.refusal? = some form ∧
        error = .unsupported form (c.render .short) (p ++ ⟨q⟩) := by
  induction e using Expr.induct_form generalizing p error with
  | nominal a =>
    rw [outcome_describeAt_nominal]
    constructor
    · rintro ⟨⟩
    · rintro ⟨q, c, form, hf, -⟩
      exact absurd hf (Expr.not_firstRefused_of_describable (Expr.describable_nominal a))
  | app a as ih =>
    rw [outcome_describeAt_app, outcome_describeApplication_eq_error_iff_references,
      outcome_describeReferences_eq_error_iff]
    simp only [Expr.firstRefused_app_iff, Nat.zero_add, List.getElem?_map, Option.map_eq_some_iff]
    constructor
    · rintro ⟨i, _, ⟨e, hi, rfl⟩, he, hbefore⟩
      obtain ⟨q, c, form, hf, hc, rfl⟩ := (ih e (List.mem_of_getElem? hi)).1 he
      refine ⟨i :: q, c, form, ⟨i, q, e, rfl, hi, hf, ?_⟩, hc, by rw [Position.child_append]⟩
      intro j hj e' he'
      obtain ⟨_, d, ⟨e'', he'', rfl⟩, hd⟩ := hbefore j hj
      obtain rfl : e' = e'' := Option.some.inj (he'.symm.trans he'')
      exact exists_outcome_describeAt_iff.1 ⟨d, hd⟩
    · rintro ⟨_, c, form, ⟨i, q, e, rfl, hi, hf, hbefore⟩, hc, rfl⟩
      refine ⟨i, some e, ⟨e, hi, rfl⟩, ?_, ?_⟩
      · exact (ih e (List.mem_of_getElem? hi)).2 ⟨q, c, form, hf, hc, by rw [Position.child_append]⟩
      · intro j hj
        have hlt : j < as.length := Nat.lt_trans hj (List.getElem?_eq_some_iff.1 hi).1
        have he' : as[j]? = some as[j] := List.getElem?_eq_getElem hlt
        obtain ⟨d, hd⟩ := exists_outcome_describeAt_iff.2 (hbefore j hj as[j] he')
        exact ⟨some as[j], d, ⟨as[j], he', rfl⟩, hd⟩
  | refused e form h =>
    rw [outcome_describeAt_of_refusal? h]
    simp only [Expr.firstRefused_iff_of_refusal? h]
    constructor
    · rintro ⟨⟩
      exact ⟨[], e, form, ⟨rfl, rfl⟩, h, by rw [← Position.root, Position.append_root]⟩
    · rintro ⟨_, _, form', ⟨rfl, rfl⟩, hc, rfl⟩
      obtain rfl : form = form' := Option.some.inj (h.symm.trans hc)
      rw [← Position.root, Position.append_root]

/-! ### Standing below a position -/

/-- The error of an expression that stands below a position. -/
def DescribeError.below (p : Position) : DescribeError → DescribeError
  | .absent q => .absent (p ++ q)
  | .unsupported form text q => .unsupported form text (p ++ q)
  | .unpinned ancestor => .unpinned ancestor

/-- Below a position an expression is described as at the root. -/
theorem outcome_describeAt (p : Position) (e : Expr Symbol) :
    (describeAt p e).outcome = (describe e).outcome.mapError (DescribeError.below p) := by
  cases h : (describe e).outcome with
  | ok d => exact outcome_describeAt_eq_ok_iff.2 (outcome_describeAt_eq_ok_iff.1 h)
  | error error =>
    obtain ⟨q, c, form, hf, hc, rfl⟩ := outcome_describeAt_eq_error_iff.1 h
    exact outcome_describeAt_eq_error_iff.2 ⟨q, c, form, hf, hc, rfl⟩

/-! ### The failure of a whole expression -/

/-- **What is reported when an expression cannot be described**: its first refused form, by the form,
the short rendering and the position of exactly that one. No form inside an array or behind the bound
of a wildcard is reported, and of several arguments with refused forms the leftmost decides, whatever
the depths. -/
theorem describe_fails_with_first_refused (e : Expr Symbol) :
    (∀ error, (describe e).outcome = .error error ↔
      ∃ q c form, e.FirstRefused q c ∧ c.refusal? = some form ∧
        error = .unsupported form (c.render .short) ⟨q⟩) ∧
    ∀ form text q, (describe e).outcome = .error (.unsupported form text ⟨q⟩) →
      (∀ p i r, q = p ++ i :: r → ∃ a as, e.at? p = some (.app a as)) ∧
      ∀ p i r x, e.at? (p ++ i :: r) = some x → x.refusal? ≠ none →
        ∀ j s, i < j → q ≠ p ++ j :: s := by
  have hiff : ∀ error, (describe e).outcome = .error error ↔
      ∃ q c form, e.FirstRefused q c ∧ c.refusal? = some form ∧
        error = .unsupported form (c.render .short) ⟨q⟩ :=
    fun error => outcome_describeAt_eq_error_iff
  refine ⟨hiff, fun form text q h => ?_⟩
  obtain ⟨q', c, form', hf, -, herror⟩ := (hiff _).1 h
  obtain rfl : q = q' := by
    injection herror with _ _ hq
    injection hq
  exact ⟨fun p i r hq => hf.app_of_prefix hq,
    fun p i r x hx hne j s hij => hf.ne_of_refused_before hx hne hij s⟩

/-- An array deep in the first argument is reported, and neither the variable inside it nor the
variable that is the second argument. -/
theorem describe_fails_with_deep_array :
    let e : Expr Symbol := .app ⟨.numbered 0, "m::Map<_, _>"⟩
      [.app ⟨.numbered 1, "m::List<_>"⟩ [.array (.freeVar "T") (some 3)], .freeVar "K"]
    (describe e).outcome = .error (.unsupported .array "[T; 3]" ⟨[0, 0]⟩) ∧
      (∃ a as, e.at? [0] = some (.app a as)) ∧ ([0, 0] : List Nat) ≠ [1] := by
  intro e
  have he : (describe e).outcome = .error (.unsupported .array "[T; 3]" ⟨[0, 0]⟩) := by rfl
  have h := (describe_fails_with_first_refused e).2 _ _ _ he
  exact ⟨he, h.1 [0] 0 [] rfl, h.2 [] 0 [0] _ rfl (by simp [Expr.refusal?]) 1 [] Nat.one_pos⟩

end TypeShape
