import Mathlib.Data.List.Induction
import TypeShape.Log.Filter

/-!
# Which directive decides

The directives that speak about a record are compared one after the other, and the one that is left
decides. It is the last of those that no other takes precedence of.

* `decisive_concat_of_concerns`, `decisive_concat_of_not_concerns`: what one more directive at the end
  changes;
* `decisive_eq_none_iff`: no directive decides exactly if none speaks about the record.

Main statements: `decisive_eq_some_iff`, the filter cut at the directive that decides;
`allows_of_detail_le`, a filter that lets a record pass lets pass whatever stands for less detail.
-/

namespace TypeShape.LogFilter

variable {filter : LogFilter} {record : LogRecord} {d e : Directive}

/-! ### The deciding directive -/

theorem decisive_concat_of_concerns (h : d.concerns record = true) (filter : LogFilter) :
    decisive record (filter ++ [d]) = prefer (filter.decisive record) d := by
  simp [decisive, List.filter_append, h]

theorem decisive_concat_of_not_concerns (h : d.concerns record = false) (filter : LogFilter) :
    decisive record (filter ++ [d]) = filter.decisive record := by
  simp [decisive, List.filter_append, h]

theorem prefer_ne_none (best : Option Directive) (d : Directive) : prefer best d ≠ none := by
  unfold prefer
  split
  · exact Option.some_ne_none d
  · split <;> exact Option.some_ne_none _

theorem decisive_eq_none_iff :
    filter.decisive record = none ↔ ∀ d ∈ filter, d.concerns record = false := by
  induction filter using List.reverseRecOn with
  | nil => simp [decisive]
  | append_singleton filter e ih =>
    cases he : e.concerns record with
    | true =>
      rw [decisive_concat_of_concerns he]
      refine iff_of_false (prefer_ne_none _ e) fun h => ?_
      simpa [he] using h e (by simp)
    | false =>
      rw [decisive_concat_of_not_concerns he, ih]
      simp [or_imp, forall_and, he]

/-- The directive speaks about the record and decides among the directives in front of it and behind
it: those in front yield to it, and it does not yield to those behind. -/
structure Decides (record : LogRecord) (front : LogFilter) (d : Directive) (behind : LogFilter) :
    Prop where
  concerns : d.concerns record = true
  front_yields : ∀ e ∈ front, e.concerns record = true → e.yieldsTo d = true
  not_yields : ∀ e ∈ behind, e.concerns record = true → d.yieldsTo e = false

namespace Decides

variable {front behind : LogFilter}

theorem concat (h : Decides record front d behind)
    (he : e.concerns record = true → d.yieldsTo e = false) : Decides record front d (behind ++ [e]) where
  concerns := h.concerns
  front_yields := h.front_yields
  not_yields e' he' hconcerns := by
    rcases List.mem_append.1 he' with he' | he'
    · exact h.not_yields e' he' hconcerns
    · rw [List.mem_singleton.1 he'] at hconcerns ⊢
      exact he hconcerns

/-- All that speak about the record yield to a directive that the deciding one yields to. -/
theorem yieldsTo_of_mem (h : Decides record front d behind) (hyields : d.yieldsTo e = true)
    {e' : Directive} (he' : e' ∈ front ++ d :: behind) (hconcerns : e'.concerns record = true) :
    e'.yieldsTo e = true := by
  rcases List.mem_append.1 he' with he' | he'
  · exact Directive.yieldsTo_trans (h.front_yields e' he' hconcerns) hyields
  · rcases List.mem_cons.1 he' with rfl | he'
    · exact hyields
    · have hnot := h.not_yields e' he' hconcerns
      have hyields' := (Directive.yieldsTo_total d e').resolve_left (by simp [hnot])
      exact Directive.yieldsTo_trans hyields' hyields

end Decides

theorem prefer_some_of_yieldsTo {b : Directive} (h : b.yieldsTo d = true) :
    prefer (some b) d = some d := if_pos h

theorem prefer_some_of_not_yieldsTo {b : Directive} (h : b.yieldsTo d = false) :
    prefer (some b) d = some b := if_neg (by simp [h])

theorem exists_decides (h : decisive record filter = some d) :
    ∃ front behind, filter = front ++ d :: behind ∧ Decides record front d behind := by
  induction filter using List.reverseRecOn generalizing d with
  | nil => cases h
  | append_singleton filter e ih =>
    cases he : e.concerns record with
    | false =>
      rw [decisive_concat_of_not_concerns he] at h
      obtain ⟨front, behind, rfl, hdecides⟩ := ih h
      exact ⟨front, behind ++ [e], by simp, hdecides.concat (by simp [he])⟩
    | true =>
      rw [decisive_concat_of_concerns he] at h
      cases hbest : decisive record filter with
      | none =>
        rw [hbest] at h
        cases h
        refine ⟨filter, [], rfl, he, fun e' he' hconcerns => ?_, by simp⟩
        simp [decisive_eq_none_iff.1 hbest e' he'] at hconcerns
      | some b =>
        rw [hbest] at h
        obtain ⟨front, behind, hfilter, hdecides⟩ := ih hbest
        cases hyields : b.yieldsTo e with
        | true =>
          rw [prefer_some_of_yieldsTo hyields] at h
          cases h
          refine ⟨filter, [], rfl, he, fun e' he' hconcerns => ?_, by simp⟩
          exact hdecides.yieldsTo_of_mem hyields (hfilter ▸ he') hconcerns
        | false =>
          rw [prefer_some_of_not_yieldsTo hyields] at h
          cases h
          exact ⟨front, behind ++ [e], by simp [hfilter], hdecides.concat fun _ => hyields⟩

theorem Decides.decisive_eq {front behind : LogFilter} (h : Decides record front d behind) :
    decisive record (front ++ d :: behind) = some d := by
  induction behind using List.reverseRecOn with
  | nil =>
    rw [decisive_concat_of_concerns h.concerns]
    cases hbest : decisive record front with
    | none => rfl
    | some b =>
      obtain ⟨_, _, hfront, hb⟩ := exists_decides hbest
      exact prefer_some_of_yieldsTo (h.front_yields b (by simp [hfront]) hb.concerns)
  | append_singleton behind e ih =>
    have hbehind := ih ⟨h.concerns, h.front_yields, fun e' he' => h.not_yields e' (by simp [he'])⟩
    rw [← List.cons_append, ← List.append_assoc]
    cases he : e.concerns record with
    | false => rw [decisive_concat_of_not_concerns he, hbehind]
    | true =>
      rw [decisive_concat_of_concerns he, hbehind]
      exact prefer_some_of_not_yieldsTo (h.not_yields e (by simp) he)

/-- **The directive that decides** is the one at which the filter can be cut such that all in front of
it yield to it and it yields to none behind it, among those that speak about the record. -/
theorem decisive_eq_some_iff : filter.decisive record = some d ↔
    ∃ front behind, filter = front ++ d :: behind ∧ Decides record front d behind := by
  constructor
  · exact exists_decides
  · rintro ⟨front, behind, rfl, h⟩
    exact h.decisive_eq

/-! ### Which records pass -/

theorem decisive_congr {record' : LogRecord} (htarget : record'.target = record.target)
    (hfields : record'.fields = record.fields) (filter : LogFilter) :
    filter.decisive record' = filter.decisive record := by
  unfold decisive
  simp only [Directive.concerns_congr _ htarget hfields]

theorem allows_iff : filter.allows record = true ↔
    ∃ d, filter.decisive record = some d ∧ record.level.detail ≤ d.limit := by
  unfold allows
  cases filter.decisive record <;> simp

/-- **What a filter lets pass it lets pass in less detail.** -/
theorem allows_of_detail_le {record' : LogRecord} (h : filter.allows record = true)
    (htarget : record'.target = record.target) (hfields : record'.fields = record.fields)
    (hdetail : record'.level.detail ≤ record.level.detail) : filter.allows record' = true := by
  obtain ⟨d, hd, hlimit⟩ := allows_iff.1 h
  exact allows_iff.2 ⟨d, (decisive_congr htarget hfields filter).trans hd, Nat.le_trans hdetail hlimit⟩

/-- Where no filter is to be had, errors and warnings pass, and nothing else. -/
theorem allows_fallback (record : LogRecord) :
    fallback.allows record = decide (record.level.detail ≤ Level.warn.detail) := rfl

end TypeShape.LogFilter
