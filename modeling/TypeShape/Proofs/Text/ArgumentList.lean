import TypeShape.Proofs.Text.Run

/-!
# What is cut off a qualified name

The path of a name that starts with a path ends where the first `<` stands, and nothing is asked of what
follows. So the part that is cut off is an argument list only where the name also ends with a `>`.

* `Text.pathOf_eq_self_or_append`: what is cut off begins with the first `<`;
* `Symbol.CutsArguments a` — nothing but an argument list is cut off the name of `a`;
* `Symbol.EndsOpen a` — the name of `a` has a `<` in it but goes on behind its last `>`;
* `Symbol.cutsArguments_iff`: the two exclude each other where the name starts with a path.

Main statement: `path_cuts_at_first_bracket`.
-/

namespace TypeShape

namespace Text

variable {s : List Char}

theorem bracket_notMem_headOf (s : List Char) : '<' ∉ headOf s := by
  intro h
  have hne := List.all_eq_true.1 List.all_takeWhile '<' h
  simp at hne

theorem headOf_of_bracket_notMem (h : '<' ∉ s) : headOf s = s := by
  have hrun : ∀ c ∈ s, (c != '<') = true := by
    intro c hc
    refine bne_iff_ne.2 ?_
    rintro rfl
    exact h hc
  have hend : ∀ c ∈ ([] : List Char).head?, (c != '<') = false := by simp
  simpa [headOf] using takeWhile_append_of_run hrun hend

theorem exists_eq_headOf_append (h : '<' ∈ s) : ∃ t, s = headOf s ++ '<' :: t := by
  have hsplit : headOf s ++ s.dropWhile (· != '<') = s := List.takeWhile_append_dropWhile
  cases hrest : s.dropWhile (· != '<') with
  | nil =>
    rw [hrest, List.append_nil] at hsplit
    rw [← hsplit] at h
    exact absurd h (bracket_notMem_headOf s)
  | cons c t =>
    obtain rfl : c = '<' := by simpa using eq_false_of_dropWhile_eq_cons hrest
    exact ⟨t, by rw [← hrest, hsplit]⟩

theorem pathOf_eq_self_iff : pathOf s = s ↔ (isPath (headOf s) = true → '<' ∉ s) := by
  rw [pathOf]
  by_cases hpath : isPath (headOf s) = true
  · rw [if_pos hpath]
    constructor
    · intro h _ hs
      rw [← h] at hs
      exact bracket_notMem_headOf s hs
    · intro h
      exact headOf_of_bracket_notMem (h hpath)
  · rw [if_neg hpath]
    exact iff_of_true rfl fun h => absurd h hpath

/-- What is cut off a name begins with its first bracket. -/
theorem pathOf_eq_self_or_append (s : List Char) :
    pathOf s = s ∨ '<' ∉ pathOf s ∧ ∃ t, s = pathOf s ++ '<' :: t := by
  by_cases h : pathOf s = s
  · exact Or.inl h
  · obtain ⟨hpath, hbracket⟩ : isPath (headOf s) = true ∧ '<' ∈ s := by
      simpa [pathOf_eq_self_iff] using h
    have hhead : pathOf s = headOf s := if_pos hpath
    rw [hhead]
    exact Or.inr ⟨bracket_notMem_headOf s, exists_eq_headOf_append hbracket⟩

/-- What is cut off a name ends as the name does. -/
theorem exists_eq_closed_iff (h : pathOf s ≠ s) :
    (∃ t, s = pathOf s ++ ('<' :: t ++ ['>'])) ↔ s.getLast? = some '>' := by
  constructor
  · rintro ⟨t, ht⟩
    rw [ht, ← List.append_assoc, List.getLast?_concat]
  · intro hlast
    obtain ⟨-, t, ht⟩ := (pathOf_eq_self_or_append s).resolve_left h
    rcases List.eq_nil_or_concat t with rfl | ⟨u, c, rfl⟩
    · rw [ht, List.getLast?_concat] at hlast
      cases hlast
    · rw [List.concat_eq_append, ← List.cons_append] at ht
      rw [ht, ← List.append_assoc, List.getLast?_concat] at hlast
      obtain rfl := Option.some.inj hlast
      exact ⟨u, ht⟩

end Text

namespace Symbol

variable {a : Symbol}

/-- **Nothing but an argument list is cut off** to get the path: it opens where the path ends and closes
where the name ends. -/
def CutsArguments (a : Symbol) : Prop :=
  a.path = a.fullName ∨ ∃ t, a.fullName = a.path ++ "<" ++ t ++ ">"

/-- There is a bracket in the name, but none closes at its end. -/
def EndsOpen (a : Symbol) : Prop :=
  '<' ∈ a.fullName.toList ∧ a.fullName.toList.getLast? ≠ some '>'

theorem toList_path (a : Symbol) : a.path.toList = Text.pathOf a.fullName.toList := by
  rw [path, text, String.toList_ofList]

theorem toList_name (a : Symbol) : a.name.toList = Text.shortNameOf a.fullName.toList := by
  rw [name, text, String.toList_ofList]

theorem path_eq_fullName_iff :
    a.path = a.fullName ↔ Text.pathOf a.fullName.toList = a.fullName.toList := by
  rw [← String.toList_inj, toList_path]

theorem cutsArguments_iff_pathOf :
    a.CutsArguments ↔ Text.pathOf a.fullName.toList = a.fullName.toList ∨
      ∃ t, a.fullName.toList = Text.pathOf a.fullName.toList ++ ('<' :: t ++ ['>']) := by
  refine or_congr path_eq_fullName_iff ?_
  constructor
  · rintro ⟨t, ht⟩
    have hlist := congrArg String.toList ht
    exact ⟨t.toList, by simpa [path, text] using hlist⟩
  · rintro ⟨t, ht⟩
    refine ⟨String.ofList t, String.toList_inj.1 ?_⟩
    simpa [path, text] using ht

/-- More than an argument list is cut off exactly where a name starts with a path and ends open. -/
theorem cutsArguments_iff : a.CutsArguments ↔ ¬ (a.PathNamed ∧ a.EndsOpen) := by
  rw [cutsArguments_iff_pathOf]
  by_cases hself : Text.pathOf a.fullName.toList = a.fullName.toList
  · refine iff_of_true (Or.inl hself) ?_
    rintro ⟨hpath, hbracket, -⟩
    exact Text.pathOf_eq_self_iff.1 hself hpath hbracket
  · obtain ⟨hpath, hbracket⟩ : a.PathNamed ∧ '<' ∈ a.fullName.toList := by
      rw [Text.pathOf_eq_self_iff, Classical.not_imp, Classical.not_not] at hself
      exact hself
    rw [or_iff_right hself, Text.exists_eq_closed_iff hself]
    constructor
    · intro hlast hopen
      exact hopen.2.2 hlast
    · intro hclosed
      exact Decidable.of_not_not fun hlast => hclosed ⟨hpath, hbracket, hlast⟩

theorem EndsOpen.path_eq_fullName_iff (h : a.EndsOpen) : a.path = a.fullName ↔ ¬ a.PathNamed := by
  rw [Symbol.path_eq_fullName_iff, Text.pathOf_eq_self_iff]
  constructor
  · intro hself hpath
    exact hself hpath h.1
  · intro hpath hhead
    exact absurd hhead hpath

theorem toList_name_of_not_pathNamed (h : ¬ a.PathNamed) :
    a.name.toList = Text.shorten a.fullName.toList := by
  have hhead : ¬ Text.isPath (Text.headOf a.fullName.toList) = true := h
  rw [toList_name, Text.shortNameOf, if_neg hhead]

end Symbol

/-- **The path of a name is cut at the first bracket.** What is cut off begins there and goes to the end
of the name; it is an argument list unless the name starts with a path and ends open. A name that ends
open is kept whole and has all its paths shortened exactly when it does not start with a path. -/
theorem path_cuts_at_first_bracket (a : Symbol) :
    (a.path = a.fullName ∨ '<' ∉ a.path.toList ∧ ∃ t, a.fullName = a.path ++ "<" ++ t) ∧
    (a.CutsArguments ↔ ¬ (a.PathNamed ∧ a.EndsOpen)) ∧
    (a.EndsOpen →
      (a.path = a.fullName ∧ a.name.toList = Text.shorten a.fullName.toList ↔ ¬ a.PathNamed)) := by
  refine ⟨?_, Symbol.cutsArguments_iff, ?_⟩
  · rcases Text.pathOf_eq_self_or_append a.fullName.toList with hself | ⟨hbracket, t, ht⟩
    · exact Or.inl (Symbol.path_eq_fullName_iff.2 hself)
    · refine Or.inr ⟨by simpa [Symbol.path, Symbol.text] using hbracket, String.ofList t, ?_⟩
      refine String.toList_inj.1 ?_
      simpa [Symbol.path, Symbol.text] using ht
  · intro h
    rw [h.path_eq_fullName_iff, and_iff_left_iff_imp]
    exact Symbol.toList_name_of_not_pathNamed

/-- A closure inside an instance of a generic function loses its own name, and a function pointer over
all lifetimes all but its first word. -/
theorem path_cuts_more_than_arguments :
    let closure : Symbol := ⟨.numbered 0, "m::f<i32>::\x7b\x7bclosure\x7d\x7d"⟩
    let pointer : Symbol := ⟨.numbered 1, "for<'a> fn(&'a str)"⟩
    closure.EndsOpen ∧ ¬ closure.CutsArguments ∧ closure.path = "m::f" ∧ closure.name = "f" ∧
      pointer.EndsOpen ∧ ¬ pointer.CutsArguments ∧ pointer.path = "for" ∧ pointer.name = "for" := by
  intro closure pointer
  have hclosure : closure.PathNamed ∧ closure.EndsOpen := by
    refine ⟨?_, ?_, ?_⟩ <;> decide +kernel
  have hpointer : pointer.PathNamed ∧ pointer.EndsOpen := by
    refine ⟨?_, ?_, ?_⟩ <;> decide +kernel
  exact ⟨hclosure.2, fun h => Symbol.cutsArguments_iff.1 h hclosure, by decide +kernel,
    by decide +kernel, hpointer.2, fun h => Symbol.cutsArguments_iff.1 h hpointer, by decide +kernel,
    by decide +kernel⟩

end TypeShape
