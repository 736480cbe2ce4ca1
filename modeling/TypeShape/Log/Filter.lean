import TypeShape.Log.Directive

/-!
# Log filters

A filter is a list of directives, written with commas in between. Of the directives that speak about
a record the one that yields to no other decides whether it passes.

* `LogFilter.pieces`: a text cut at its commas. Main statements: `intercalate_pieces` and
  `comma_notMem_of_mem_pieces`, the pieces are those whose join is the text.
* `LogFilter.read`: the filter that a text denotes. An empty text lets errors pass, an invalid one
  warnings too, and so does a setting that is missing. Main statements: `read_ne_nil`, every text
  denotes a directive at least; `read_eq_fallback`, one invalid piece spoils the whole text.
* `LogFilter.allows`: whether a record passes.
-/

namespace TypeShape

/-- The directives of a filter. -/
abbrev LogFilter := List Directive

namespace LogFilter

/-! ### Reading a filter -/

/-- The pieces of a text between commas. -/
def pieces : List Char → List (List Char)
  | [] => [[]]
  | c :: cs =>
    if c == ',' then [] :: pieces cs
    else
      match pieces cs with
      | [] => [[c]]
      | p :: ps => (c :: p) :: ps

theorem exists_pieces_eq_cons (s : List Char) : ∃ p ps, pieces s = p :: ps := by
  cases s with
  | nil => exact ⟨[], [], rfl⟩
  | cons c cs =>
    unfold pieces
    split
    · exact ⟨[], pieces cs, rfl⟩
    · split
      · exact ⟨[c], [], rfl⟩
      next p ps _ => exact ⟨c :: p, ps, rfl⟩

theorem intercalate_pieces (s : List Char) : [','].intercalate (pieces s) = s := by
  induction s with
  | nil => rfl
  | cons c cs ih =>
    obtain ⟨p, ps, hpieces⟩ := exists_pieces_eq_cons cs
    rw [hpieces] at ih
    unfold pieces
    split
    next hc =>
      have hcomma : c = ',' := by simpa using hc
      rw [hpieces, List.intercalate_cons_cons, ih, hcomma]
      rfl
    next =>
      rw [hpieces]
      cases ps with
      | nil => simpa using ih
      | cons q qs =>
        rw [List.intercalate_cons_cons] at ih
        simp [List.intercalate_cons_cons, ← ih]

theorem comma_notMem_of_mem_pieces {s p : List Char} (h : p ∈ pieces s) : ',' ∉ p := by
  induction s generalizing p with
  | nil => simp_all [pieces]
  | cons c cs ih =>
    obtain ⟨q, qs, hpieces⟩ := exists_pieces_eq_cons cs
    rw [hpieces] at ih
    unfold pieces at h
    split at h
    · rw [hpieces] at h
      rcases List.mem_cons.1 h with rfl | h
      · exact List.not_mem_nil
      · exact ih h
    next hc =>
      rw [hpieces] at h
      rcases List.mem_cons.1 h with rfl | h
      · have hcomma : ',' ≠ c := fun he => hc (by simp [← he])
        simpa [hcomma] using ih (List.mem_cons_self ..)
      · exact ih (List.mem_cons_of_mem _ h)

/-- What passes where no filter is to be had: errors and warnings. -/
def fallback : LogFilter := [.plain none Level.warn.detail]

/-- The filter that a text denotes. -/
def read (written : String) : LogFilter :=
  match (pieces written.toList).filter (!·.isEmpty) with
  | [] => [.plain none Level.error.detail]
  | ps => (ps.mapM Directive.read?).getD fallback

theorem read_ne_nil (written : String) : read written ≠ [] := by
  unfold read
  cases (pieces written.toList).filter (!·.isEmpty) with
  | nil => exact List.cons_ne_nil _ _
  | cons p ps =>
    dsimp only
    rw [List.mapM_cons]
    cases Directive.read? p with
    | none => exact List.cons_ne_nil _ _
    | some d =>
      cases ps.mapM Directive.read? with
      | none => exact List.cons_ne_nil _ _
      | some ds => exact List.cons_ne_nil d ds

theorem mapM_read?_eq_none {ps : List (List Char)} {p : List Char} (hp : p ∈ ps)
    (h : Directive.read? p = none) : ps.mapM Directive.read? = none := by
  induction ps with
  | nil => cases hp
  | cons q ps ih =>
    rw [List.mapM_cons]
    rcases List.mem_cons.1 hp with rfl | hp
    · rw [h]
      rfl
    · rw [ih hp]
      cases Directive.read? q <;> rfl

/-- One invalid piece spoils the whole text. -/
theorem read_eq_fallback {written : String} {p : List Char} (hp : p ∈ pieces written.toList)
    (hne : p ≠ []) (h : Directive.read? p = none) : read written = fallback := by
  have hmem : p ∈ (pieces written.toList).filter (!·.isEmpty) :=
    List.mem_filter.2 ⟨hp, by simpa using hne⟩
  unfold read
  split
  next hnil =>
    rw [hnil] at hmem
    cases hmem
  next ps _ =>
    rw [mapM_read?_eq_none hmem h]
    rfl

/-- The filter of a setting, which may be missing. -/
def ofSetting : Option String → LogFilter
  | none => fallback
  | some written => read written

/-! ### Which records pass -/

/-- Compares the directive that decides so far with a later one. -/
def prefer (best : Option Directive) (d : Directive) : Option Directive :=
  match best with
  | none => some d
  | some b => if b.yieldsTo d then some d else some b

/-- The directive that decides about a record. -/
def decisive (record : LogRecord) (filter : LogFilter) : Option Directive :=
  (filter.filter fun d => d.concerns record).foldl prefer none

/-- Whether a record passes a filter. -/
def allows (filter : LogFilter) (record : LogRecord) : Bool :=
  match filter.decisive record with
  | some d => record.level.detail ≤ d.limit
  | none => false

end LogFilter

end TypeShape
