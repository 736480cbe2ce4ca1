import TypeShape.Proofs.Description.EntryPoints
import TypeShape.Proofs.Description.NormalForm
import TypeShape.Proofs.StaticType.ReadBack

/-!
# Static types told apart

* `Inside s t` — the type `s` occurs in the type `t`, at any depth, or is `t`;
* `Nominal t` — no array, slice or value of any type occurs in `t`;
* `Built.describable_iff`: the built types that are described are the nominal ones;
* `Built.beq_iff`: the expressions of two built types are equal when the types are, markers aside.

Main statement: `static_types_told_apart`.
-/

namespace TypeShape

theorem Builtin.distinct_declarations : Declarations.Distinct Builtin.declarations := by
  have hname : ∀ d ∈ Builtin.declarations, d.symbol.identity = .named d.name := by decide +kernel
  have hinj : Function.Injective Identity.named := fun _ _ h => by injection h
  rw [Declarations.Distinct, List.map_congr_left hname]
  have hnodup := Builtin.nodup_names.map hinj
  rwa [List.map_map] at hnodup

namespace StaticType

/-! ### What occurs in a type -/

/-- Occurs in a type, at any depth; a type occurs in itself. -/
inductive Inside : StaticType → StaticType → Prop
  | here (t : StaticType) : Inside t t
  | argument {s t : StaticType} {name : String} {first : StaticType} {others : List StaticType}
    (ht : t ∈ first :: others) (hs : Inside s t) : Inside s (.generic name first others)
  | component {s c : StaticType} (n : Nat) (hs : Inside s c) : Inside s (.array c n)
  | element {s c : StaticType} (hs : Inside s c) : Inside s (.slice c)

/-- **Nominal types**: no array, slice or value of any type occurs in them. -/
structure Nominal (t : StaticType) : Prop where
  not_array : ∀ c n, ¬ Inside (.array c n) t
  not_slice : ∀ c, ¬ Inside (.slice c) t
  not_dynAny : ∀ m, ¬ Inside (.dynAny m) t

theorem inside_plain_iff {s : StaticType} {name : String} :
    Inside s (.plain name) ↔ s = .plain name := by
  constructor
  · rintro ⟨⟩; rfl
  · rintro rfl; exact .here _

theorem inside_generic_iff {s : StaticType} {name : String} {first : StaticType}
    {others : List StaticType} :
    Inside s (.generic name first others) ↔
      s = .generic name first others ∨ ∃ t ∈ first :: others, Inside s t := by
  constructor
  · rintro (_ | ⟨ht, hs⟩)
    · exact Or.inl rfl
    · exact Or.inr ⟨_, ht, hs⟩
  · rintro (rfl | ⟨t, ht, hs⟩)
    · exact .here _
    · exact .argument ht hs

theorem nominal_plain (name : String) : Nominal (.plain name) := by
  constructor <;> intros <;> simp [inside_plain_iff]

theorem nominal_generic_iff {name : String} {first : StaticType} {others : List StaticType} :
    Nominal (.generic name first others) ↔ ∀ t ∈ first :: others, Nominal t := by
  constructor
  · intro h t ht
    exact ⟨fun c n hs => h.not_array c n (.argument ht hs),
      fun c hs => h.not_slice c (.argument ht hs), fun m hs => h.not_dynAny m (.argument ht hs)⟩
  · intro h
    refine ⟨fun c n hs => ?_, fun c hs => ?_, fun m hs => ?_⟩ <;>
      obtain ⟨⟨⟩⟩ | ⟨t, ht, hs⟩ := inside_generic_iff.1 hs
    · exact (h t ht).not_array c n hs
    · exact (h t ht).not_slice c hs
    · exact (h t ht).not_dynAny m hs

theorem not_nominal_array (c : StaticType) (n : Nat) : ¬ Nominal (.array c n) :=
  fun h => h.not_array c n (.here _)

theorem not_nominal_slice (c : StaticType) : ¬ Nominal (.slice c) :=
  fun h => h.not_slice c (.here _)

theorem not_nominal_dynAny (m : Marker) : ¬ Nominal (.dynAny m) :=
  fun h => h.not_dynAny m (.here _)

/-! ### The expression of a built type -/

namespace Built

variable {D : Declarations} {t u : StaticType} {e f : Expr Symbol}

/-- The built types that can be described are the nominal ones. -/
theorem describable_iff (ht : Built D t) (he : reflect? D t = some e) :
    e.Describable ↔ t.Nominal := by
  refine Built.induct_reflect ?plain ?generic ?array ?slice ?dynAny ht he
  case plain =>
    intro name a _
    exact iff_of_true (Expr.describable_nominal a) (nominal_plain name)
  case generic =>
    intro name first others a e es _ hes
    rw [Expr.describable_app_iff, nominal_generic_iff]
    exact forall_mem_iff_of_forall₂ hes
  case array =>
    intro c n e _
    exact iff_of_false (Expr.not_describable_of_refusal? rfl) (not_nominal_array c n)
  case slice =>
    intro c e _
    exact iff_of_false (Expr.not_describable_of_refusal? rfl) (not_nominal_slice c)
  case dynAny =>
    intro m
    exact iff_of_false (Expr.not_describable_of_refusal? rfl) (not_nominal_dynAny m)

/-- The expression of a built type has no application to nothing. -/
theorem normalize_eq (ht : Built D t) (he : reflect? D t = some e) : e.normalize = e := by
  refine Built.induct_reflect ?plain ?generic ?array ?slice ?dynAny ht he
  case generic =>
    intro name first others a e es _ hes
    have hmem : ∀ x ∈ e :: es, x.normalize = x := fun x hx => by
      obtain ⟨_, _, h⟩ := exists_mem_of_forall₂ hes hx
      exact h
    rw [Expr.normalize, Expr.normalizeList_eq, hmem e (List.mem_cons_self ..),
      List.map_congr_left fun x hx => hmem x (List.mem_cons_of_mem _ hx), List.map_id']
  all_goals
    intros
    rfl

/-- A nominal type has no markers. -/
theorem forgetMarkers_eq (ht : Built D t) (hn : t.Nominal) : t.forgetMarkers = t := by
  induction ht with
  | plain _ => rfl
  | @generic name first others _ _ ih =>
    have hmem : ∀ t ∈ first :: others, t.forgetMarkers = t := fun t h =>
      ih t h (nominal_generic_iff.1 hn t h)
    rw [forgetMarkers_generic, hmem first (List.mem_cons_self ..),
      List.map_congr_left fun t h => hmem t (List.mem_cons_of_mem _ h), List.map_id']
  | array n _ => exact absurd hn (not_nominal_array _ n)
  | slice _ => exact absurd hn (not_nominal_slice _)
  | dynAny m => exact absurd hn (not_nominal_dynAny m)

/-- The expressions of two built types are equal exactly when the types are, markers aside. -/
theorem beq_iff (hD : D.Distinct) (ht : Built D t) (hu : Built D u) (he : reflect? D t = some e)
    (hf : reflect? D u = some f) : (e == f) = true ↔ t.forgetMarkers = u.forgetMarkers := by
  rw [Expr.beq_iff]
  constructor
  · intro h
    have hback := ht.readBack?_eq hD he
    rw [h, hu.readBack?_eq hD hf] at hback
    exact (Option.some.inj hback).symm
  · intro h
    have hreflect := ht.reflect?_forgetMarkers he
    rw [h, hu.reflect?_forgetMarkers hf] at hreflect
    rw [Option.some.inj hreflect]

end Built

/-- **Static types are told apart exactly.** Where all declared identities differ, two built types
have expressions; a type is described exactly when it is nominal; two types that are described have
equal descriptors exactly when they are the same type; their expressions are equal exactly when the
types are the same with all values of any type alike. -/
theorem static_types_told_apart {D : Declarations} (hD : D.Distinct) {t u : StaticType}
    (ht : Built D t) (hu : Built D u) :
    ∃ e f, reflect? D t = some e ∧ reflect? D u = some f ∧
      ((∃ d, (Descriptor.ofType e).outcome = .ok d) ↔ t.Nominal) ∧
      (∀ d d', (Descriptor.ofType e).outcome = .ok d → (Descriptor.ofType f).outcome = .ok d' →
        ((d == d') = true ↔ t = u)) ∧
      ((e == f) = true ↔ t.forgetMarkers = u.forgetMarkers) := by
  obtain ⟨e, he⟩ := ht.exists_reflect?
  obtain ⟨f, hf⟩ := hu.exists_reflect?
  refine ⟨e, f, he, hf, ?_, ?_, ht.beq_iff hD hu he hf⟩
  · rw [outcome_ofType, describe, exists_outcome_describeAt_iff, ht.describable_iff he]
  · intro d d' hd hd'
    rw [outcome_ofType, describe, outcome_describeAt_eq_ok_iff] at hd hd'
    have hnt := (ht.describable_iff he).1 (Descriptor.exists_describes_iff.1 ⟨d, hd⟩)
    have hnu := (hu.describable_iff hf).1 (Descriptor.exists_describes_iff.1 ⟨d', hd'⟩)
    rw [hd.beq_iff_normalize hd', ht.normalize_eq he, hu.normalize_eq hf, ht.beq_iff hD hu he hf,
      ht.forgetMarkers_eq hnt, hu.forgetMarkers_eq hnu]

/-- The built-in names are such declarations; the element type of a list that is itself an argument
makes a difference. -/
theorem static_types_told_apart_of_maps :
    let list (t : StaticType) : StaticType := .generic "Vec" t []
    let map (t : StaticType) : StaticType := .generic "HashMap" (.plain "String") [list t]
    ∃ e f d d', reflect? Builtin.declarations (map (.plain "i32")) = some e ∧
      reflect? Builtin.declarations (map (.plain "String")) = some f ∧
      (Descriptor.ofType e).outcome = .ok d ∧ (Descriptor.ofType f).outcome = .ok d' ∧
      (d == d') = false ∧ (e == f) = false := by
  intro list map
  have hVec : (Builtin.declarations.symbol? "Vec" 1).isSome := by decide +kernel
  have hHashMap : (Builtin.declarations.symbol? "HashMap" 2).isSome := by decide +kernel
  have hString : (Builtin.declarations.symbol? "String" 0).isSome := by decide +kernel
  have hmap : ∀ t, Built Builtin.declarations t → Built Builtin.declarations (map t) := by
    intro t ht
    have hlist : Built Builtin.declarations (list t) := .generic hVec (by simpa using ht)
    exact .generic hHashMap (by simpa using ⟨.plain hString, hlist⟩)
  have hi : Built Builtin.declarations (map (.plain "i32")) := hmap _ (.plain (by decide +kernel))
  have hs : Built Builtin.declarations (map (.plain "String")) := hmap _ (.plain hString)
  have hnominal : ∀ name, (map (.plain name)).Nominal := by
    intro name
    simp [map, list, nominal_generic_iff, nominal_plain]
  obtain ⟨e, f, he, hf, hok, htoken, hexpr⟩ :=
    static_types_told_apart Builtin.distinct_declarations hi hs
  obtain ⟨d, hd⟩ := hok.2 (hnominal _)
  obtain ⟨f', -, hf', -, hok', -⟩ := static_types_told_apart Builtin.distinct_declarations hs hs
  obtain rfl := Option.some.inj (hf.symm.trans hf')
  obtain ⟨d', hd'⟩ := hok'.2 (hnominal _)
  refine ⟨e, f, d, d', he, hf, hd, hd', ?_, ?_⟩
  · rw [Bool.eq_false_iff, ne_eq, htoken d d' hd hd']
    simp [map, list]
  · rw [Bool.eq_false_iff, ne_eq, hexpr]
    simp [map, list, forgetMarkers, forgetMarkersList]

end StaticType

end TypeShape
