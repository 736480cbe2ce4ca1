import TypeShape.Proofs.Description.FirstRefusal

/-!
# Replacing one argument

Another expression at an argument position changes the descriptor at that position and nowhere else,
and what goes wrong inside it goes wrong below that position.

* `Expr.at?_replaceAt_of_not_prefix`, `Descriptor.at?_replaceAt_of_not_prefix`: what stands neither
  above nor below the position is kept;
* `Descriptor.at?_replaceAt_append`: at and above the position the rest of the replacement is made;
* `Describes.replaceAt`, `FirstRefused.replaceAt`: the descriptor and the first refused form of an
  expression in which another one has been put in place.

Main statement: `describe_replaceAt`.
-/

namespace TypeShape

variable {ρ : Type}

/-! ### What stays in its place -/

/-- A change that keeps what is asked of one element keeps it for the whole list. -/
theorem bind_getElem?_modify {α β : Type} {l : List α} {i j : Nat} {f : α → α} {g : α → Option β}
    (h : i = j → ∀ a, g (f a) = g a) : (l.modify i f)[j]?.bind g = l[j]?.bind g := by
  rw [List.getElem?_modify]
  cases l[j]? with
  | none => rfl
  | some a =>
    by_cases hij : i = j
    · simpa [hij] using h hij a
    · simp [hij]

namespace Expr

theorem at?_replaceAt_of_not_prefix {p r : List Nat} (hpr : ¬ p <+: r) (hrp : ¬ r <+: p)
    (new e : Expr ρ) : (replaceAt p new e).at? r = e.at? r := by
  induction p generalizing r e with
  | nil => exact absurd List.nil_prefix hpr
  | cons i p ih =>
    cases r with
    | nil => exact absurd List.nil_prefix hrp
    | cons j r =>
      rw [at?_cons, at?_cons, arguments_replaceAt_cons]
      refine bind_getElem?_modify fun hij => ?_
      subst hij
      exact ih (fun h => hpr (List.cons_prefix_cons.2 ⟨rfl, h⟩))
        (fun h => hrp (List.cons_prefix_cons.2 ⟨rfl, h⟩))

end Expr

namespace Descriptor

theorem parameters_replaceAt_cons (i : Nat) (p : List Nat) (new d : Descriptor ρ) :
    (replaceAt (i :: p) new d).parameters = d.parameters.modify i (replaceAt p new) := by
  cases d; rfl

theorem head_replaceAt_cons (i : Nat) (p : List Nat) (new d : Descriptor ρ) :
    (replaceAt (i :: p) new d).head = d.head := by
  cases d; rfl

theorem at?_replaceAt_of_not_prefix {p r : List Nat} (hpr : ¬ p <+: r) (hrp : ¬ r <+: p)
    (new d : Descriptor ρ) : (replaceAt p new d).at? r = d.at? r := by
  induction p generalizing r d with
  | nil => exact absurd List.nil_prefix hpr
  | cons i p ih =>
    cases r with
    | nil => exact absurd List.nil_prefix hrp
    | cons j r =>
      rw [at?_cons, at?_cons, parameter?, parameter?, parameters_replaceAt_cons]
      refine bind_getElem?_modify fun hij => ?_
      subst hij
      exact ih (fun h => hpr (List.cons_prefix_cons.2 ⟨rfl, h⟩))
        (fun h => hrp (List.cons_prefix_cons.2 ⟨rfl, h⟩))

/-- At a position on the way, the rest of the replacement is made in what stands there. -/
theorem at?_replaceAt_append (r p : List Nat) (new d : Descriptor ρ) :
    (replaceAt (r ++ p) new d).at? r = (d.at? r).map (replaceAt p new) := by
  induction r generalizing d with
  | nil => rfl
  | cons i r ih =>
    rw [List.cons_append, at?_cons, at?_cons, parameter?, parameter?, parameters_replaceAt_cons,
      List.getElem?_modify_eq]
    cases d.parameters[i]? with
    | none => rfl
    | some c => exact ih c

theorem isSome_at?_of_append {r s : List Nat} {d : Descriptor ρ} (h : (d.at? (r ++ s)).isSome) :
    (d.at? r).isSome := by
  rw [at?_append] at h
  exact Option.isSome_of_isSome_bind h

theorem at?_replaceAt {p : List Nat} {d : Descriptor ρ} (new : Descriptor ρ)
    (h : (d.at? p).isSome) : (replaceAt p new d).at? p = some new := by
  obtain ⟨x, hx⟩ := Option.isSome_iff_exists.1 h
  have happend := at?_replaceAt_append p [] new d
  rw [List.append_nil, hx] at happend
  rw [happend, Option.map_some, replaceAt_nil]

end Descriptor

/-! ### The descriptor with the replacement -/

/-- Related lists stay related when the elements at one index are changed alike. -/
theorem forall₂_modify {α β : Type} {R : α → β → Prop} {f : α → α} {g : β → β} {l : List α}
    {m : List β} (h : List.Forall₂ R l m) (hfg : ∀ a b, R a b → R (f a) (g b)) (i : Nat) :
    List.Forall₂ R (l.modify i f) (m.modify i g) := by
  induction h generalizing i with
  | nil => simp
  | cons hab hl ih =>
    cases i with
    | zero => exact .cons (hfg _ _ hab) hl
    | succ i => exact .cons hab (ih i)

theorem Descriptor.Describes.isSome_at? {d : Descriptor ρ} {e : Expr ρ} (h : d.Describes e)
    {p : List Nat} (hp : (e.at? p).isSome) : (d.at? p).isSome := by
  have hrel := h.rel_at? p
  generalize d.at? p = x at hrel ⊢
  generalize e.at? p = c at hrel hp
  cases hrel with
  | none => exact hp
  | some _ => rfl

theorem Descriptor.Describes.replaceAt {d x : Descriptor ρ} {e new : Expr ρ} (h : d.Describes e)
    (hnew : x.Describes new) (p : List Nat) :
    (Descriptor.replaceAt p x d).Describes (Expr.replaceAt p new e) := by
  induction p generalizing d e with
  | nil => simpa using hnew
  | cons i p ih =>
    cases h with
    | nominal a =>
      have hkept : Descriptor.replaceAt (i :: p) x (.node a []) = .node a [] := by
        simp [Descriptor.replaceAt]
      rw [hkept]
      exact .nominal a
    | app a hds => exact .app a (forall₂_modify hds (fun _ _ hde => ih hde) i)

/-! ### The first refused form with the replacement -/

theorem Expr.FirstRefused.replaceAt {e new c : Expr ρ} {p q : List Nat} (he : e.Describable)
    (hp : (e.at? p).isSome) (hnew : new.FirstRefused q c) :
    (Expr.replaceAt p new e).FirstRefused (p ++ q) c := by
  induction p generalizing e with
  | nil => simpa using hnew
  | cons i p ih =>
    cases e with
    | app a as =>
      have has := Expr.describable_app_iff.1 he
      rw [Expr.at?_cons, Expr.arguments] at hp
      cases hi : as[i]? with
      | none => simp [hi] at hp
      | some e' =>
        rw [hi] at hp
        refine Expr.firstRefused_app_iff.2 ⟨i, p ++ q, Expr.replaceAt p new e', rfl, ?_, ?_, ?_⟩
        · rw [List.getElem?_modify_eq, hi]
          rfl
        · exact ih (has e' (List.mem_of_getElem? hi)) hp
        · -- the arguments in front are those of the old expression, and these can be described
          intro j hj x hx
          rw [List.getElem?_modify_ne _ _ (Nat.ne_of_gt hj)] at hx
          exact has x (List.mem_of_getElem? hx)
    | _ => simp [Expr.arguments] at hp

/-! ### Describing with the replacement -/

/-- **Replacing one argument changes the result only there.** Let `e` be described by `d`, and let
another expression be put in place of the one at an argument position `p` of `e`, with all that stands
neither above nor below `p` kept.

* If that other expression is described by `x`, the whole is described by `d` with `x` at `p`: what
  stands neither above nor below `p` is kept, and above `p` the heads and the numbers of parameters
  are.
* If it is refused, the whole is refused for the same form with the same text, at its position below
  `p`. -/
theorem describe_replaceAt {e : Expr Symbol} {d : Descriptor Symbol} {p : List Nat}
    (hd : (describe e).outcome = .ok d) (hp : (e.at? p).isSome) (new : Expr Symbol) :
    ((Expr.replaceAt p new e).at? p = some new ∧
      ∀ r, ¬ p <+: r → ¬ r <+: p → (Expr.replaceAt p new e).at? r = e.at? r) ∧
    (∀ x, (describe new).outcome = .ok x →
      (describe (Expr.replaceAt p new e)).outcome = .ok (Descriptor.replaceAt p x d) ∧
      (Descriptor.replaceAt p x d).at? p = some x ∧
      (∀ r, ¬ p <+: r → ¬ r <+: p → (Descriptor.replaceAt p x d).at? r = d.at? r) ∧
      ∀ r i s, p = r ++ i :: s → ∃ y z, d.at? r = some y ∧
        (Descriptor.replaceAt p x d).at? r = some z ∧ z.head = y.head ∧
        z.parameters.length = y.parameters.length) ∧
    ∀ form text q, (describe new).outcome = .error (.unsupported form text q) →
      (describe (Expr.replaceAt p new e)).outcome = .error (.unsupported form text (⟨p⟩ ++ q)) := by
  have hde : d.Describes e := outcome_describeAt_eq_ok_iff.1 hd
  refine ⟨⟨Expr.at?_replaceAt new hp, fun r hpr hrp => Expr.at?_replaceAt_of_not_prefix hpr hrp new e⟩,
    fun x hx => ⟨?_, ?_, ?_, ?_⟩, ?_⟩
  · exact outcome_describeAt_eq_ok_iff.2 (hde.replaceAt (outcome_describeAt_eq_ok_iff.1 hx) p)
  · exact Descriptor.at?_replaceAt x (hde.isSome_at? hp)
  · exact fun r hpr hrp => Descriptor.at?_replaceAt_of_not_prefix hpr hrp x d
  · rintro r i s rfl
    obtain ⟨y, hy⟩ := Option.isSome_iff_exists.1 (Descriptor.isSome_at?_of_append (hde.isSome_at? hp))
    refine ⟨y, Descriptor.replaceAt (i :: s) x y, hy, ?_, ?_, ?_⟩
    · rw [Descriptor.at?_replaceAt_append, hy]
      rfl
    · exact Descriptor.head_replaceAt_cons i s x y
    · rw [Descriptor.parameters_replaceAt_cons, List.length_modify]
  · intro form text q hnew
    obtain ⟨q', c, form', hc, hform, herror⟩ := outcome_describeAt_eq_error_iff.1 hnew
    injection herror with hf ht hq
    subst hf ht
    have hfirst := hc.replaceAt (exists_outcome_describeAt_iff.1 ⟨d, hd⟩) hp
    refine outcome_describeAt_eq_error_iff.2 ⟨p ++ q', c, form, hfirst, hform, ?_⟩
    rw [hq]
    rfl

/-- The element type of a list inside a map is replaced: by a type that can be described, which leaves
the value of the map as it was, and by a list whose second argument is an array, which is refused two
levels below the list. -/
theorem describe_replaceAt_in_map :
    let list (es : List (Expr Symbol)) : Expr Symbol := .app ⟨.numbered 0, "m::List<_>"⟩ es
    let byte : Expr Symbol := .nominal ⟨.numbered 1, "u8"⟩
    let e : Expr Symbol := .app ⟨.numbered 2, "m::Map<_, _>"⟩ [list [byte], byte]
    let name : Expr Symbol := .app ⟨.numbered 3, "m::Name"⟩ []
    let rows : Expr Symbol := list [byte, .array (.freeVar "T") (some 3)]
    ∃ d x, (describe e).outcome = .ok d ∧ (e.at? [0, 0]).isSome ∧ (describe name).outcome = .ok x ∧
      (describe (Expr.replaceAt [0, 0] name e)).outcome = .ok (Descriptor.replaceAt [0, 0] x d) ∧
      (Descriptor.replaceAt [0, 0] x d).at? [1] = d.at? [1] ∧
      (describe rows).outcome = .error (.unsupported .array "[T; 3]" ⟨[1]⟩) ∧
      (describe (Expr.replaceAt [0, 0] rows e)).outcome =
        .error (.unsupported .array "[T; 3]" ⟨[0, 0, 1]⟩) := by
  intro list byte e name rows
  obtain ⟨d, hd⟩ : ∃ d, (describe e).outcome = .ok d := ⟨_, rfl⟩
  obtain ⟨x, hx⟩ : ∃ x, (describe name).outcome = .ok x := ⟨_, rfl⟩
  have hp : (e.at? [0, 0]).isSome := by rfl
  have hrows : (describe rows).outcome = .error (.unsupported .array "[T; 3]" ⟨[1]⟩) := by rfl
  obtain ⟨-, hsucceeds, -⟩ := describe_replaceAt hd hp name
  obtain ⟨-, -, hfails⟩ := describe_replaceAt hd hp rows
  obtain ⟨hok, -, haside, -⟩ := hsucceeds x hx
  exact ⟨d, x, hd, hp, hx, hok, haside [1] (by decide) (by decide), hrows, hfails _ _ _ hrows⟩

end TypeShape
