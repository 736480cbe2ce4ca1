import TypeShape.Proofs.Description.NormalForm
import TypeShape.Descriptor.Render

/-!
# A descriptor is written as what it describes

`Describes.renderOnto_eq`: a descriptor and the expression it describes are the same text, however the
heads are written. Hence `text_toExpr`: turning a descriptor back keeps its text.

Main statement: `described_as_written`, at the root and at every argument position.
-/

namespace TypeShape

namespace Descriptor

variable {ρ : Type}

theorem laterOnto_eq_of_forall₂ {label : ρ → List Char} {ds : List (Descriptor ρ)}
    {es : List (Expr ρ)}
    (h : List.Forall₂ (fun d e => ∀ rest, renderOnto label d rest = Expr.renderOnto label e rest) ds
      es) (rest : List Char) : laterOnto label ds rest = Expr.laterOnto label es rest := by
  induction h with
  | nil => rfl
  | cons hde _ ih => rw [laterOnto, Expr.laterOnto, hde, ih]

theorem Describes.renderOnto_eq {d : Descriptor ρ} {e : Expr ρ} (h : d.Describes e)
    (label : ρ → List Char) (rest : List Char) :
    renderOnto label d rest = Expr.renderOnto label e rest := by
  refine Describes.induct
    (motive := fun d e => ∀ rest, renderOnto label d rest = Expr.renderOnto label e rest)
    ?nominal ?app h rest
  case nominal =>
    intro a rest
    rfl
  case app =>
    intro a ds as has rest
    cases has with
    | nil => rfl
    | cons hde hds =>
      rw [renderOnto, Expr.renderOnto, parametersOnto, Expr.argumentsOnto, hde,
        laterOnto_eq_of_forall₂ hds]

theorem Describes.render_eq {d : Descriptor Symbol} {e : Expr Symbol} (h : d.Describes e)
    (style : NameStyle) : d.render style = e.render style :=
  congrArg String.ofList (h.renderOnto_eq (Symbol.text style) [])

theorem text_toExpr (label : ρ → List Char) (d : Descriptor ρ) :
    d.toExpr.text label = d.text label :=
  ((describes_toExpr d).renderOnto_eq label []).symm

end Descriptor

/-- **A descriptor is written as the expression it was made from**, in either style, and so is the
descriptor at every argument position, also where an application to nothing stands. -/
theorem described_as_written (style : NameStyle) {e : Expr Symbol} {d : Descriptor Symbol}
    (h : (describe e).outcome = .ok d) :
    d.render style = e.render style ∧
    ∀ p, (d.at? p).map (Descriptor.render style) = (e.at? p).map (Expr.render style) := by
  have hde : d.Describes e := outcome_describeAt_eq_ok_iff.1 h
  refine ⟨hde.render_eq style, fun p => ?_⟩
  have hp := hde.rel_at? p
  generalize d.at? p = x at hp
  generalize e.at? p = c at hp
  cases hp with
  | none => rfl
  | some hxc => exact congrArg some (hxc.render_eq style)

/-- A map from an application to nothing to a list of another one. -/
theorem described_as_written_of_units :
    let unit (name : String) : Expr Symbol := .app ⟨.numbered 0, name⟩ []
    let list : Expr Symbol := .app ⟨.numbered 1, "m::List<_>"⟩ [unit "n::Unit<>"]
    let e : Expr Symbol := .app ⟨.numbered 2, "m::Map<_, _>"⟩ [unit "n::Unit", list]
    ∃ d, (describe e).outcome = .ok d ∧ d.render .short = "Map<Unit, List<Unit>>" ∧
      d.render .full = "m::Map<n::Unit, m::List<n::Unit>>" ∧
      (d.at? [1, 0]).map (Descriptor.render .full) = some "n::Unit" := by
  intro unit list e
  obtain ⟨d, hd⟩ : ∃ d, (describe e).outcome = .ok d := ⟨_, rfl⟩
  obtain ⟨hshort, -⟩ := described_as_written .short hd
  obtain ⟨hfull, hpositions⟩ := described_as_written .full hd
  refine ⟨d, hd, ?_, ?_, ?_⟩
  · rw [hshort]
    decide +kernel
  · rw [hfull]
    decide +kernel
  · rw [hpositions]
    decide +kernel

end TypeShape
