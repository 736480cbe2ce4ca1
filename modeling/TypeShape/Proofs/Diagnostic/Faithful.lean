import TypeShape.Diagnostic.Encode
import TypeShape.Proofs.Description.Names
import TypeShape.Proofs.Diagnostic.JsonReading
import TypeShape.Proofs.Position

/-!
# JSON diagnostics tell names apart

A symbol is written by its two names, so the JSON form of a tree of symbols determines the tree of
these pairs and nothing more; the JSON form of an error determines the error. As the texts of JSON
values are read in one way, the same holds for the texts.

* `Expr.toJson_eq_iff`, `Descriptor.toJson_eq_iff`: the values of two trees, by induction on the first;
* `DescribeError.toJson_inj`: the values of two errors.

Main statement: `json_tells_names_apart`.
-/

namespace TypeShape

/-- Two lists have the same images under `f` as soon as they have the same images under `g`, and
conversely, if this holds for the members. -/
theorem map_eq_map_iff_of_forall {α β γ : Type} {f : α → β} {g : α → γ} {l : List α}
    (h : ∀ x ∈ l, ∀ y, f x = f y ↔ g x = g y) (m : List α) :
    l.map f = m.map f ↔ l.map g = m.map g := by
  induction l generalizing m with
  | nil => cases m <;> simp
  | cons x l ih =>
    have hl := ih fun x hx => h x (List.mem_cons_of_mem _ hx)
    cases m with
    | nil => simp
    | cons y m =>
      rw [List.map_cons, List.map_cons, List.map_cons, List.map_cons, List.cons.injEq,
        List.cons.injEq, h x (List.mem_cons_self ..) y, hl m]

/-! ### Symbols and positions -/

/-- What a diagnostic tells of a symbol: its name and its path. -/
def Symbol.names (a : Symbol) : String × String := (a.name, a.path)

theorem Symbol.toJson_eq_iff (a b : Symbol) : a.toJson = b.toJson ↔ a.names = b.names := by
  simp [toJson, names]

theorem Position.toJson_inj {p q : Position} : p.toJson = q.toJson ↔ p = q := by
  rw [toJson, toJson, Json.string.injEq, render_inj]

theorem Refusal.toJson_inj {form form' : Refusal} : form.toJson = form'.toJson ↔ form = form' := by
  cases form <;> cases form' <;> simp [toJson, key]

/-! ### Expressions -/

theorem Json.ofLength?_inj {n m : Option Nat} : ofLength? n = ofLength? m ↔ n = m := by
  cases n <;> cases m <;> simp [ofLength?]

namespace Expr

/-- An expression is no absent part: a bound is never taken for the lack of one. -/
theorem toJson_ne_null (e : Expr Symbol) : e.toJson ≠ .null := by
  cases e <;> simp [toJson]

/-- The JSON values of two expressions are equal exactly when the two are the same tree of names. -/
theorem toJson_eq_iff (e e' : Expr Symbol) :
    e.toJson = e'.toJson ↔ e.map Symbol.names = e'.map Symbol.names := by
  induction e using induct generalizing e' with
  | nominal a => cases e' <;> simp [toJson, map, Symbol.toJson_eq_iff]
  | app a as ih =>
    have has := map_eq_map_iff_of_forall ih
    cases e' <;> simp [toJson, map, Symbol.toJson_eq_iff, jsonList_eq, mapList_eq, has]
  | array c n ih => cases e' <;> simp [toJson, map, ih, Json.ofLength?_inj]
  | freeVar x => cases e' <;> simp [toJson, map]
  | anything => cases e' <;> simp [toJson, map, (toJson_ne_null _).symm]
  | subtypeOf b ih => cases e' <;> simp [toJson, map, ih, toJson_ne_null]
  | supertypeOf b ih => cases e' <;> simp [toJson, map, ih, toJson_ne_null]

end Expr

/-! ### Descriptors -/

/-- The JSON values of two descriptors are equal exactly when the two are the same tree of names. -/
theorem Descriptor.toJson_eq_iff (d d' : Descriptor Symbol) :
    d.toJson = d'.toJson ↔ d.map Symbol.names = d'.map Symbol.names := by
  induction d using induct generalizing d' with
  | node a ds ih =>
    obtain ⟨a', ds'⟩ := d'
    have hds := map_eq_map_iff_of_forall ih ds'
    rw [map_node, map_node, node.injEq, ← Symbol.toJson_eq_iff, ← hds]
    simp [toJson, jsonList_eq]

/-! ### Errors -/

theorem DescribeError.toJson_inj {error error' : DescribeError} :
    error.toJson = error'.toJson ↔ error = error' := by
  cases error with
  | absent position => cases error' <;> simp [toJson, tag, Position.toJson_inj]
  | unsupported form expression position =>
    cases error' <;> simp [toJson, tag, Refusal.toJson_inj, Position.toJson_inj]
  | unpinned ancestor => cases error' <;> simp [toJson, tag]

/-! ### Texts -/

/-- **JSON diagnostics are faithful.** Whatever characters the names and texts inside hold, two
descriptors have the same JSON text exactly when they have the same positions with the same name and
path at each of them, two expressions exactly when they are the same tree of names and paths, and two
errors exactly when they are equal, although a position is written as a string. -/
theorem json_tells_names_apart :
    (∀ d d' : Descriptor Symbol, d.toJson.render = d'.toJson.render ↔
      ∀ p, (d.at? p).map (fun x => x.head.names) = (d'.at? p).map (fun x => x.head.names)) ∧
    (∀ e e' : Expr Symbol, e.toJson.render = e'.toJson.render ↔
      e.map Symbol.names = e'.map Symbol.names) ∧
    ∀ error error' : DescribeError, error.toJson.render = error'.toJson.render ↔
      error = error' := by
  refine ⟨?_, ?_, ?_⟩
  · intro d d'
    rw [Json.render_inj, Descriptor.toJson_eq_iff, Descriptor.map_eq_map_iff_at?]
  · intro e e'
    rw [Json.render_inj, Expr.toJson_eq_iff]
  · intro error error'
    rw [Json.render_inj, DescribeError.toJson_inj]

end TypeShape
