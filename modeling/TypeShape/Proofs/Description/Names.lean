import TypeShape.Proofs.Description.FirstRefusal
import TypeShape.Proofs.Description.NormalForm

/-!
# Names play no part

Replacing the heads of an expression keeps its forms in their places, so it keeps what can be
described and which form is refused first. Two expressions that are equal under `==` are the same
tree of identities, so describing them ends alike; only the renderings of what is refused may differ.

* `FirstRefused.map`, `Describes.map`: the first refused form and the descriptor of an expression
  with other heads;
* `Descriptor.eq_iff_at?`: a descriptor is known by the heads at its positions.

Main statement: `describe_looks_past_names`.
-/

namespace TypeShape

variable {ρ σ : Type}

/-! ### Expressions with other heads -/

namespace Expr

theorem refusal?_map (f : ρ → σ) (e : Expr ρ) : (e.map f).refusal? = e.refusal? := by
  cases e <;> rfl

theorem describable_map_iff {f : ρ → σ} {e : Expr ρ} : (e.map f).Describable ↔ e.Describable := by
  constructor
  · intro h p c hc
    rw [← refusal?_map f c]
    exact h p (c.map f) (by rw [at?_map, hc]; rfl)
  · intro h p x hx
    rw [at?_map] at hx
    obtain ⟨c, hc, rfl⟩ := Option.map_eq_some_iff.1 hx
    rw [refusal?_map]
    exact h p c hc

namespace FirstRefused

variable {e c c' : Expr ρ} {q q' : List Nat}

theorem map (h : e.FirstRefused q c) (f : ρ → σ) : (e.map f).FirstRefused q (c.map f) where
  stands := by rw [at?_map, h.stands]; rfl
  refused := by rw [refusal?_map]; exact h.refused
  least := by
    intro q' x hx hne
    rw [at?_map] at hx
    obtain ⟨c', hc', rfl⟩ := Option.map_eq_some_iff.1 hx
    rw [refusal?_map] at hne
    exact h.least q' c' hc' hne

theorem unique (h : e.FirstRefused q c) (h' : e.FirstRefused q' c') : q = q' ∧ c = c' := by
  have hq : q = q' := by
    rcases h.least q' c' h'.stands h'.refused with heq | hlt
    · exact heq.symm
    · rcases h'.least q c h.stands h.refused with heq | hlt'
      · exact heq
      · exact absurd hlt' (List.lt_asymm hlt)
  subst hq
  exact ⟨rfl, Option.some.inj (h.stands.symm.trans h'.stands)⟩

end FirstRefused

end Expr

/-! ### Descriptors with other heads -/

namespace Descriptor

theorem head_map (f : ρ → σ) (d : Descriptor ρ) : (d.map f).head = f d.head := by
  cases d; rfl

theorem parameter?_map (f : ρ → σ) (d : Descriptor ρ) (i : Nat) :
    (d.map f).parameter? i = (d.parameter? i).map (map f) := by
  obtain ⟨a, ds⟩ := d
  rw [map_node, parameter?, parameter?, parameters, parameters, List.getElem?_map]

theorem at?_map (f : ρ → σ) (p : List Nat) (d : Descriptor ρ) :
    (d.map f).at? p = (d.at? p).map (map f) := by
  induction p generalizing d with
  | nil => rfl
  | cons i p ih =>
    rw [at?_cons, at?_cons, parameter?_map]
    cases d.parameter? i with
    | none => rfl
    | some c => exact ih c

theorem Describes.map {d : Descriptor ρ} {e : Expr ρ} (h : d.Describes e) (f : ρ → σ) :
    (d.map f).Describes (e.map f) := by
  refine Describes.induct (motive := fun d e => (d.map f).Describes (e.map f)) ?nominal ?app h
  case nominal =>
    intro a
    exact .nominal (f a)
  case app =>
    intro a ds as hds
    rw [map_node, Expr.map_app]
    refine .app (f a) ?_
    rw [List.forall₂_map_left_iff, List.forall₂_map_right_iff]
    exact hds

/-- Two descriptors of one tree of parts are the same as trees of these parts. -/
theorem Describes.map_eq_map {d d' : Descriptor ρ} {e e' : Expr ρ} {f : ρ → σ} (h : d.Describes e)
    (h' : d'.Describes e') (he : e.map f = e'.map f) : d.map f = d'.map f :=
  (h.map f).unique (he ▸ h'.map f)

/-! ### Heads at positions -/

/-- A descriptor is known by the heads at its positions. -/
theorem eq_iff_at? {d d' : Descriptor ρ} :
    d = d' ↔ ∀ p, (d.at? p).map head = (d'.at? p).map head := by
  constructor
  · rintro rfl p
    rfl
  · intro h
    induction d using induct generalizing d' with
    | node a ds ih =>
      obtain ⟨a', ds'⟩ := d'
      have ha : a = a' := by simpa [head] using h []
      have hds : ds = ds' := by
        apply List.ext_getElem?
        intro i
        -- all positions that start with `i` are positions of the parameters with that index
        have hi : ∀ q, (ds[i]?.bind (at? q)).map head = (ds'[i]?.bind (at? q)).map head :=
          fun q => h (i :: q)
        cases hd : ds[i]? with
        | none =>
          cases hd' : ds'[i]? with
          | none => rfl
          | some x =>
            have hx := hi []
            simp [hd, hd'] at hx
        | some x =>
          cases hd' : ds'[i]? with
          | none =>
            have hx := hi []
            simp [hd, hd'] at hx
          | some x' =>
            have hx : ∀ q, (x.at? q).map head = (x'.at? q).map head := by
              intro q
              simpa [hd, hd'] using hi q
            rw [ih x (List.mem_of_getElem? hd) hx]
      rw [ha, hds]

theorem map_eq_map_iff_at? {f : ρ → σ} {d d' : Descriptor ρ} :
    d.map f = d'.map f ↔
      ∀ p, (d.at? p).map (fun x => f x.head) = (d'.at? p).map (fun x => f x.head) := by
  rw [eq_iff_at?]
  simp only [at?_map, Option.map_map, Function.comp_def, head_map]

end Descriptor

/-! ### Equal expressions -/

section Equal

variable {e e' c c' : Expr Symbol} {q q' : List Nat}

theorem Expr.refusal?_of_beq (h : (e == e') = true) : e.refusal? = e'.refusal? := by
  rw [Expr.beq_iff] at h
  rw [← Expr.refusal?_map Symbol.identity e, h, Expr.refusal?_map]

theorem Expr.describable_of_beq (h : (e == e') = true) : e.Describable ↔ e'.Describable := by
  rw [Expr.beq_iff] at h
  rw [← Expr.describable_map_iff (f := Symbol.identity), h, Expr.describable_map_iff]

/-- Equal expressions have the same form refused first, at the same position. -/
theorem Expr.FirstRefused.of_beq (h : (e == e') = true) (hc : e.FirstRefused q c)
    (hc' : e'.FirstRefused q' c') : q = q' ∧ (c == c') = true := by
  rw [Expr.beq_iff] at h ⊢
  exact (hc.map Symbol.identity).unique (h ▸ hc'.map Symbol.identity)

theorem exists_outcome_of_beq_of_ok (h : (e == e') = true) {d : Descriptor Symbol}
    (hd : (describe e).outcome = .ok d) :
    ∃ d', (describe e').outcome = .ok d' ∧ (d == d') = true := by
  have hok : e'.Describable :=
    (Expr.describable_of_beq h).1 (exists_outcome_describeAt_iff.1 ⟨d, hd⟩)
  obtain ⟨d', hd'⟩ := exists_outcome_describeAt_iff.2 hok
  refine ⟨d', hd', ?_⟩
  rw [outcome_describeAt_eq_ok_iff] at hd'
  rw [describe, outcome_describeAt_eq_ok_iff] at hd
  rw [Descriptor.beq_iff]
  exact hd.map_eq_map hd' ((Expr.beq_iff e e').1 h)

theorem exists_outcome_of_beq_of_error (h : (e == e') = true) {error : DescribeError}
    (he : (describe e).outcome = .error error) :
    ∃ form q c c', (describe e).outcome = .error (.unsupported form (c.render .short) ⟨q⟩) ∧
      (describe e').outcome = .error (.unsupported form (c'.render .short) ⟨q⟩) ∧
      e.at? q = some c ∧ e'.at? q = some c' ∧ (c == c') = true := by
  obtain ⟨q, c, form, hc, hform, rfl⟩ := outcome_describeAt_eq_error_iff.1 he
  cases he' : (describe e').outcome with
  | ok d' =>
    -- the same forms stand at the same positions of both, so they cannot end differently
    have hok := (Expr.describable_of_beq h).2 (exists_outcome_describeAt_iff.1 ⟨d', he'⟩)
    exact absurd hc (Expr.not_firstRefused_of_describable hok)
  | error error' =>
    obtain ⟨q', c', form', hc', hform', rfl⟩ := outcome_describeAt_eq_error_iff.1 he'
    obtain ⟨rfl, hcc⟩ := Expr.FirstRefused.of_beq h hc hc'
    obtain rfl : form = form' := by
      rw [Expr.refusal?_of_beq hcc, hform'] at hform
      exact (Option.some.inj hform).symm
    exact ⟨form, q, c, c', he, rfl, hc.stands, hc'.stands, hcc⟩

end Equal

/-- **Names play no part in describing.** Two expressions that are equal under `==`, whatever the full
names inside, are described by equal descriptors or both refused: for the same form at the same
position, each with the short rendering of what stands there, which is again equal under `==`. Two
descriptors are equal under `==` exactly when they have the same identities at the same positions, and
this is an equivalence. -/
theorem describe_looks_past_names :
    (∀ e e' : Expr Symbol, (e == e') = true →
      (∃ d d', (describe e).outcome = .ok d ∧ (describe e').outcome = .ok d' ∧ (d == d') = true) ∨
      ∃ form q c c', (describe e).outcome = .error (.unsupported form (c.render .short) ⟨q⟩) ∧
        (describe e').outcome = .error (.unsupported form (c'.render .short) ⟨q⟩) ∧
        e.at? q = some c ∧ e'.at? q = some c' ∧ (c == c') = true) ∧
    (∀ d d' : Descriptor Symbol, (d == d') = true ↔
      ∀ p, (d.at? p).map (fun x => x.head.identity) = (d'.at? p).map (fun x => x.head.identity)) ∧
    (∀ d : Descriptor Symbol, (d == d) = true) ∧
    (∀ d d' : Descriptor Symbol, (d == d') = true → (d' == d) = true) ∧
    ∀ d d' d'' : Descriptor Symbol, (d == d') = true → (d' == d'') = true → (d == d'') = true := by
  refine ⟨?_, ?_, ?_, ?_, ?_⟩
  · intro e e' h
    cases he : (describe e).outcome with
    | ok d =>
      obtain ⟨d', hd', hbeq⟩ := exists_outcome_of_beq_of_ok h he
      exact Or.inl ⟨d, d', rfl, hd', hbeq⟩
    | error error =>
      have hboth := exists_outcome_of_beq_of_error h he
      rw [he] at hboth
      exact Or.inr hboth
  · intro d d'
    rw [Descriptor.beq_iff, Descriptor.map_eq_map_iff_at?]
  · intro d
    rw [Descriptor.beq_iff]
  · intro d d' h
    rw [Descriptor.beq_iff] at h ⊢
    exact h.symm
  · intro d d' d'' h h'
    rw [Descriptor.beq_iff] at h h' ⊢
    exact h.trans h'

/-- The same types under two sets of names: a list of bytes is described alike, and a list of slices is
refused for the slice, which is written in two ways. -/
theorem describe_looks_past_names_of_slices :
    let list (name : String) (e : Expr Symbol) : Expr Symbol := .app ⟨.numbered 0, name⟩ [e]
    let byte (name : String) : Expr Symbol := .nominal ⟨.numbered 1, name⟩
    let e (name : String) : Expr Symbol := list name (.array (byte name) none)
    (∃ d d', (describe (list "m::List<_>" (byte "u8"))).outcome = .ok d ∧
      (describe (list "n::Seq" (byte "n::Byte"))).outcome = .ok d' ∧
      (d == d') = true ∧ (d' == d) = true ∧ (d == d) = true) ∧
    (describe (e "m::X")).outcome = .error (.unsupported .array "[X]" ⟨[0]⟩) ∧
    ∃ c, (e "n::Y<_>").at? [0] = some c ∧ c.render .short = "[Y]" ∧
      (describe (e "n::Y<_>")).outcome = .error (.unsupported .array (c.render .short) ⟨[0]⟩) := by
  intro list byte e
  obtain ⟨houtcome, -, -, hsymm, htrans⟩ := describe_looks_past_names
  have hX : (describe (e "m::X")).outcome = .error (.unsupported .array "[X]" ⟨[0]⟩) := by rfl
  refine ⟨?_, hX, ?_⟩
  · rcases houtcome (list "m::List<_>" (byte "u8")) (list "n::Seq" (byte "n::Byte")) (by rfl) with
      ⟨d, d', hd, hd', h⟩ | ⟨form, q, c, c', hc, -⟩
    · exact ⟨d, d', hd, hd', h, hsymm d d' h, htrans d d' d h (hsymm d d' h)⟩
    · cases hc
  · rcases houtcome (e "m::X") (e "n::Y<_>") (by rfl) with
      ⟨d, d', hd, -⟩ | ⟨form, q, c, c', hc, hc', -, hat, -⟩
    · cases hX.symm.trans hd
    · injection Except.error.inj (hX.symm.trans hc) with hform _ hq
      obtain rfl : [0] = q := Position.mk.inj hq
      obtain rfl := Option.some.inj hat
      exact ⟨_, rfl, by rfl, hform ▸ hc'⟩

end TypeShape
