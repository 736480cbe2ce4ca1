import TypeShape.Description.Attempt
import TypeShape.Expr.Render

/-!
# Describing an expression

An expression is described from its arguments upwards, left to right; the first argument that cannot
be described ends the attempt.

* `classify` says whether the form of an expression can be described at all, `describe` describes
  it with all its arguments.
* `describeApplication` applies a symbol to references that may be absent.
* Main statements: `classify_of_refusal?`, the forms with a `Refusal` are refused for it;
  `describeAt_eq_classify`, an expression is described by looking at its form and then describing
  its arguments; `describeArguments_eq`, the arguments of an expression are described as references
  that are present.
-/

namespace TypeShape

/-- Why an expression of this form cannot be described, if it cannot. -/
def Expr.refusal? {ρ : Type} : Expr ρ → Option Refusal
  | .nominal _ => none
  | .app _ _ => none
  | .array _ _ => some .array
  | .freeVar _ => some .variable
  | .anything => some .wildcard
  | .subtypeOf _ => some .wildcard
  | .supertypeOf _ => some .wildcard

/-- An expression whose form can be described. -/
inductive Admitted where
  /-- A nominal type without arguments. -/
  | nominal (head : Symbol)
  /-- A nominal type applied to arguments, which are still to be looked at. -/
  | app (head : Symbol) (arguments : List (Expr Symbol))

/-- Reports an expression of the given form and fails. -/
def refuse {α : Type} (form : Refusal) (e : Expr Symbol) (p : Position) : Attempt α :=
  ⟨[.refused form (e.render .short) p], .error (.unsupported form (e.render .short) p)⟩

/-- Looks at the form of the expression at a position. -/
def classify (e : Expr Symbol) (p : Position) : Attempt Admitted :=
  match e with
  | .nominal a => .done (.nominal a)
  | .app a as => .done (.app a as)
  | .array _ _ => refuse .array e p
  | .freeVar _ => refuse .variable e p
  | .anything => refuse .wildcard e p
  | .subtypeOf _ => refuse .wildcard e p
  | .supertypeOf _ => refuse .wildcard e p

/-- Looks at the form of the expression at a position, where one is required. -/
def classify? (reference : Option (Expr Symbol)) (p : Position) : Attempt Admitted :=
  match reference with
  | none => .fail (.absent p)
  | some e => classify e p

theorem classify_of_refusal? {e : Expr Symbol} {form : Refusal} (h : e.refusal? = some form)
    (p : Position) : classify e p = refuse form e p := by
  cases e <;> simp_all [Expr.refusal?, classify]

mutual
/-- Describes the expression at a position. -/
def describeAt (p : Position) : Expr Symbol → Attempt (Descriptor Symbol)
  | .nominal a => (Attempt.done (.node a [])).reporting (.described p)
  | .app a as => ((describeArguments p 0 as).map (.node a)).reporting (.described p)
  | .array c n => refuse .array (.array c n) p
  | .freeVar x => refuse .variable (.freeVar x) p
  | .anything => refuse .wildcard .anything p
  | .subtypeOf b => refuse .wildcard (.subtypeOf b) p
  | .supertypeOf b => refuse .wildcard (.supertypeOf b) p
/-- Describes the arguments from an index on of the expression at a position. -/
def describeArguments (p : Position) (index : Nat) :
    List (Expr Symbol) → Attempt (List (Descriptor Symbol))
  | [] => .done []
  | e :: es =>
    (describeAt (p.child index) e).bind fun d =>
      (describeArguments p (index + 1) es).map (d :: ·)
end

def describe (e : Expr Symbol) : Attempt (Descriptor Symbol) := describeAt .root e

/-- Describes the expression required at a position. -/
def describeReference (p : Position) : Option (Expr Symbol) → Attempt (Descriptor Symbol)
  | none => .fail (.absent p)
  | some e => describeAt p e

/-- Describes the references from an index on below a position. -/
def describeReferences (p : Position) (index : Nat) :
    List (Option (Expr Symbol)) → Attempt (List (Descriptor Symbol))
  | [] => .done []
  | r :: rs =>
    (describeReference (p.child index) r).bind fun d =>
      (describeReferences p (index + 1) rs).map (d :: ·)

/-- Describes a symbol applied to references; the application itself is not reported. -/
def describeApplication (a : Symbol) (references : List (Option (Expr Symbol))) (p : Position) :
    Attempt (Descriptor Symbol) :=
  (describeReferences p 0 references).map (.node a)

theorem describeArguments_eq (p : Position) (index : Nat) (es : List (Expr Symbol)) :
    describeArguments p index es = describeReferences p index (es.map some) := by
  induction es generalizing index with
  | nil => rfl
  | cons e es ih => simp [describeArguments, describeReferences, describeReference, ih]

theorem describeAt_eq_classify (p : Position) (e : Expr Symbol) :
    describeAt p e = (classify e p).bind fun
      | .nominal a => (Attempt.done (.node a [])).reporting (.described p)
      | .app a as => (describeApplication a (as.map some) p).reporting (.described p) := by
  cases e <;> simp [describeAt, classify, refuse, describeApplication, describeArguments_eq] <;> rfl

end TypeShape
