import TypeShape.Proofs.Description.FirstRefusal
import TypeShape.Description.Construction

/-!
# The calls that build a descriptor agree

* `FirstFailure rs error` — `error` is what the first of the references `rs` that is absent or cannot
  be described fails with;
* `outcome_describeApplication_map_some`: a symbol applied to references that are all present is
  described like the application as an expression;
* `outcome_describeApplication_eq_error_iff`: otherwise the first failure decides.

Main statement: `entry_points_agree`.
-/

namespace TypeShape

open Descriptor (fromType listOf mapOf ofType capture fromExpr ofExpr)

/-! ### One reference -/

theorem outcome_describeReference_eq_ok_iff {p : Position} {r : Option (Expr Symbol)}
    {d : Descriptor Symbol} :
    (describeReference p r).outcome = .ok d ↔ ∃ e, r = some e ∧ (describe e).outcome = .ok d := by
  cases r with
  | none => simp [describeReference, Attempt.fail]
  | some e =>
    have : (describeAt p e).outcome = .ok d ↔ (describe e).outcome = .ok d :=
      outcome_describeAt_eq_ok_iff.trans outcome_describeAt_eq_ok_iff.symm
    simp [describeReference, this]

theorem outcome_describeReference_eq_error_iff {p : Position} {r : Option (Expr Symbol)}
    {error : DescribeError} :
    (describeReference p r).outcome = .error error ↔
      (r = none ∧ error = .absent p) ∨
        ∃ e failure, r = some e ∧ (describe e).outcome = .error failure ∧
          error = failure.below p := by
  cases r with
  | none => simp [describeReference, Attempt.fail, eq_comm]
  | some e =>
    have hp : (describeReference p (some e)).outcome =
        (describe e).outcome.mapError (DescribeError.below p) := outcome_describeAt p e
    rw [hp]
    constructor
    · intro h
      cases he : (describe e).outcome with
      | ok d => rw [he] at h; cases h
      | error failure =>
        rw [he] at h
        cases h
        exact Or.inr ⟨e, failure, rfl, he, rfl⟩
    · rintro (⟨⟨⟩, -⟩ | ⟨_, failure, ⟨⟩, he, rfl⟩)
      rw [he]
      rfl

/-! ### A symbol applied to references -/

/-- **The first failure** among references below the root: the first one, in order, that is absent or
cannot be described. -/
def FirstFailure (references : List (Option (Expr Symbol))) (error : DescribeError) : Prop :=
  ∃ i r, references[i]? = some r ∧
    ((r = none ∧ error = .absent (Position.root.child i)) ∨
      ∃ e failure, r = some e ∧ (describe e).outcome = .error failure ∧
        error = failure.below (Position.root.child i)) ∧
    ∀ j < i, ∃ e d, references[j]? = some (some e) ∧ (describe e).outcome = .ok d

theorem FirstFailure.of_absent (rs : List (Option (Expr Symbol))) :
    FirstFailure (none :: rs) (.absent (Position.root.child 0)) :=
  ⟨0, none, rfl, Or.inl ⟨rfl, rfl⟩, by simp⟩

theorem FirstFailure.of_failed {e : Expr Symbol} {failure : DescribeError}
    (h : (describe e).outcome = .error failure) (rs : List (Option (Expr Symbol))) :
    FirstFailure (some e :: rs) (failure.below (Position.root.child 0)) :=
  ⟨0, some e, rfl, Or.inr ⟨e, failure, rfl, h, rfl⟩, by simp⟩

theorem FirstFailure.of_absent_second {e : Expr Symbol} {d : Descriptor Symbol}
    (h : (describe e).outcome = .ok d) (rs : List (Option (Expr Symbol))) :
    FirstFailure (some e :: none :: rs) (.absent (Position.root.child 1)) := by
  refine ⟨1, none, rfl, Or.inl ⟨rfl, rfl⟩, fun j hj => ⟨e, d, ?_, h⟩⟩
  obtain rfl : j = 0 := by omega
  rfl

theorem outcome_describeApplication_map_some (a : Symbol) (es : List (Expr Symbol)) :
    (describeApplication a (es.map some) .root).outcome = (describe (.app a es)).outcome :=
  (outcome_describeAt_app .root a es).symm

theorem outcome_describeApplication_eq_error_iff {a : Symbol} {rs : List (Option (Expr Symbol))}
    {error : DescribeError} :
    (describeApplication a rs .root).outcome = .error error ↔ FirstFailure rs error := by
  rw [outcome_describeApplication_eq_error_iff_references, outcome_describeReferences_eq_error_iff,
    FirstFailure]
  simp only [Nat.zero_add, outcome_describeReference_eq_error_iff,
    outcome_describeReference_eq_ok_iff]
  constructor
  · rintro ⟨i, r, hr, herror, hbefore⟩
    refine ⟨i, r, hr, herror, fun j hj => ?_⟩
    obtain ⟨_, d, hs, e, rfl, hd⟩ := hbefore j hj
    exact ⟨e, d, hs, hd⟩
  · rintro ⟨i, r, hr, herror, hbefore⟩
    refine ⟨i, r, hr, herror, fun j hj => ?_⟩
    obtain ⟨e, d, hs, hd⟩ := hbefore j hj
    exact ⟨some e, d, hs, e, rfl, hd⟩

/-- A reference that is absent makes the description fail, for itself or for one in front of it. -/
theorem exists_outcome_describeReferences_eq_error {rs : List (Option (Expr Symbol))}
    (h : none ∈ rs) (p : Position) (k : Nat) :
    ∃ error, (describeReferences p k rs).outcome = .error error := by
  induction rs generalizing k with
  | nil => cases h
  | cons r rs ih =>
    simp only [outcome_describeReferences_cons_eq_error_iff]
    cases hr : (describeReference (p.child k) r).outcome with
    | error error => exact ⟨error, Or.inl rfl⟩
    | ok d =>
      obtain ⟨e, rfl, -⟩ := outcome_describeReference_eq_ok_iff.1 hr
      obtain ⟨error, herror⟩ := ih (by simpa using h) (k + 1)
      exact ⟨error, Or.inr ⟨⟨d, rfl⟩, herror⟩⟩

/-! ### The calls -/

theorem outcome_capture_app (a : Symbol) (e : Expr Symbol) (es : List (Expr Symbol)) :
    (capture (.app a (e :: es))).outcome = (describe e).outcome :=
  outcome_reportEnd _ _

theorem outcome_capture_of_arguments_eq_nil {ancestor : Expr Symbol} (h : ancestor.arguments = []) :
    (capture ancestor).outcome = .error (.unpinned (ancestor.render .short)) := by
  rw [capture, outcome_reportEnd]
  cases ancestor with
  | app a as =>
    obtain rfl : as = [] := h
    rfl
  | _ => rfl

theorem outcome_listOf (r : Option (Expr Symbol)) :
    (listOf r).outcome = (describeApplication Builtin.list [r] .root).outcome :=
  outcome_reportEnd _ _

theorem outcome_mapOf (k v : Option (Expr Symbol)) :
    (mapOf k v).outcome = (describeApplication Builtin.map [k, v] .root).outcome :=
  outcome_reportEnd _ _

theorem outcome_ofType (e : Expr Symbol) : (ofType e).outcome = (describe e).outcome :=
  outcome_reportEnd _ _

theorem outcome_fromExpr (e : Expr Symbol) : (fromExpr e).outcome = (describe e).outcome :=
  outcome_reportEnd _ _

/-- **All calls agree**, in results and in errors.

* The calls that take an expression end alike.
* An ancestor with arguments is described by its first one, whatever its symbol and its other
  arguments; any other ancestor pins nothing down.
* A symbol applied to references ends like the application as an expression when all are present; it
  fails exactly with the first failure, and it does fail when a reference is absent.
* Lists and maps are such applications; a key that is absent or cannot be described decides before
  the value is looked at. -/
theorem entry_points_agree :
    (∀ e, (fromType (some e)).outcome = (describe e).outcome ∧
      (ofType e).outcome = (describe e).outcome ∧
      (fromExpr e).outcome = (describe e).outcome ∧
      (ofExpr e).outcome = (describe e).outcome) ∧
    (∀ a e es, (capture (.app a (e :: es))).outcome = (fromExpr e).outcome) ∧
    (∀ ancestor : Expr Symbol, ancestor.arguments = [] →
      (capture ancestor).outcome = .error (.unpinned (ancestor.render .short))) ∧
    (∀ a es, (describeApplication a (es.map some) .root).outcome =
      (fromExpr (.app a es)).outcome) ∧
    (∀ a rs, (∀ error, (describeApplication a rs .root).outcome = .error error ↔
        FirstFailure rs error) ∧
      (none ∈ rs → ∃ error, (describeApplication a rs .root).outcome = .error error)) ∧
    (∀ e, (listOf (some e)).outcome = (fromExpr (.app Builtin.list [e])).outcome) ∧
    (∀ k v, (mapOf (some k) (some v)).outcome = (fromExpr (.app Builtin.map [k, v])).outcome) ∧
    (listOf none).outcome = .error (.absent (Position.root.child 0)) ∧
    (∀ v, (mapOf none v).outcome = .error (.absent (Position.root.child 0))) ∧
    (∀ k v failure, (describe k).outcome = .error failure →
      (mapOf (some k) v).outcome = .error (failure.below (Position.root.child 0))) ∧
    ∀ k d, (describe k).outcome = .ok d →
      (mapOf (some k) none).outcome = .error (.absent (Position.root.child 1)) := by
  refine ⟨fun e => ⟨outcome_reportEnd _ _, outcome_ofType e, outcome_fromExpr e,
    outcome_fromExpr e⟩, ?_, fun _ => outcome_capture_of_arguments_eq_nil, ?_, ?_, ?_, ?_, ?_, ?_,
    ?_, ?_⟩
  · intro a e es
    rw [outcome_capture_app, outcome_fromExpr]
  · intro a es
    rw [outcome_describeApplication_map_some, outcome_fromExpr]
  · refine fun a rs => ⟨fun error => outcome_describeApplication_eq_error_iff, fun h => ?_⟩
    obtain ⟨error, herror⟩ := exists_outcome_describeReferences_eq_error h .root 0
    exact ⟨error, outcome_describeApplication_eq_error_iff_references.2 herror⟩
  · intro e
    rw [outcome_listOf, outcome_fromExpr, ← outcome_describeApplication_map_some]
    rfl
  · intro k v
    rw [outcome_mapOf, outcome_fromExpr, ← outcome_describeApplication_map_some]
    rfl
  · rw [outcome_listOf, outcome_describeApplication_eq_error_iff]
    exact .of_absent []
  · intro v
    rw [outcome_mapOf, outcome_describeApplication_eq_error_iff]
    exact .of_absent [v]
  · intro k v failure h
    rw [outcome_mapOf, outcome_describeApplication_eq_error_iff]
    exact .of_failed h [v]
  · intro k d h
    rw [outcome_mapOf, outcome_describeApplication_eq_error_iff]
    exact .of_absent_second h []

/-- A variable as the key decides before the value, which is absent; the value decides after a key
that can be described. A variable pins nothing down. -/
theorem entry_points_agree_on_variable_key :
    (mapOf (some (.freeVar "K")) none).outcome = .error (.unsupported .variable "K" ⟨[0]⟩) ∧
      (mapOf (some (.nominal Builtin.list)) none).outcome = .error (.absent ⟨[1]⟩) ∧
      (capture (.freeVar "T")).outcome = .error (.unpinned "T") ∧
      ∃ error, (describeApplication Builtin.map [some (.freeVar "K"), none] .root).outcome =
        .error error := by
  obtain ⟨-, -, hcapture, -, happ, -, -, -, -, hkey, hvalue⟩ := entry_points_agree
  have hK : (describe (.freeVar "K")).outcome = .error (.unsupported .variable "K" .root) := by rfl
  have hlist : (describe (.nominal Builtin.list)).outcome = .ok (.node Builtin.list []) := by rfl
  exact ⟨hkey _ none _ hK, hvalue _ _ hlist, hcapture (.freeVar "T") rfl, (happ _ _).2 (by simp)⟩

end TypeShape
