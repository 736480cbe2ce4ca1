import TypeShape.Proofs.Text.ArgumentList
import TypeShape.Proofs.Text.ColonRuns

/-!
# Paths and short names are stable

A path has no argument list left to cut off, and where colons stand in runs of even length a short name
has no path left to shorten. So to take the path or the short name of what is one already changes
nothing. The danger is a name that is read in another way the second time: it would have to start with a
path that was not there before. But a mark in front of the first `<` outlives a shortening.

* `shorten_sublist`, `mem_shorten_of_not_isPathChar`: what a shortening can drop and what it cannot;
* `headOf_shorten`: the first `<` stays where it is;
* `colon_notMem_shorten`: where colons stand in runs of even length, no colon is left;
* `shortNameOf_eq_self`: a text with nothing to cut off and no colon is its own short name.

Main statement: `names_are_stable`.
-/

namespace TypeShape

namespace Text

variable {s segment : List Char} {c : Char}

/-! ### Paths of paths -/

theorem headOf_headOf (s : List Char) : headOf (headOf s) = headOf s :=
  headOf_of_bracket_notMem (bracket_notMem_headOf s)

theorem headOf_pathOf (s : List Char) : headOf (pathOf s) = headOf s := by
  rw [pathOf]
  split
  · exact headOf_headOf s
  · rfl

theorem pathOf_pathOf (s : List Char) : pathOf (pathOf s) = pathOf s := by
  rw [pathOf, headOf_pathOf, pathOf]
  split <;> rfl

theorem shortNameOf_pathOf (s : List Char) : shortNameOf (pathOf s) = shortNameOf s := by
  rw [shortNameOf, headOf_pathOf, shortNameOf, pathOf]
  split <;> rfl

/-! ### What a shortening drops -/

theorem shortenBehind_sublist (segment s : List Char) :
    (shortenBehind segment s).Sublist (segment.reverse ++ s) := by
  induction s using scan_induct generalizing segment with
  | nil => simp [shortenBehind_end]
  | separator s ih =>
    rw [shortenBehind_separator]
    have hdrop : s.Sublist (segment.reverse ++ ':' :: ':' :: s) := by
      refine List.Sublist.trans ?_ (List.sublist_append_right _ _)
      exact (List.sublist_cons_self _ _).trans (List.sublist_cons_self _ _)
    exact (ih []).trans hdrop
  | identifier c s hc ih =>
    rw [shortenBehind_identifier hc]
    simpa using ih (c :: segment)
  | mark c s hc hsep ih =>
    rw [shortenBehind_mark hc hsep]
    exact (List.Sublist.cons_cons c (ih [])).append_left _

/-- A shortening drops characters and adds none. -/
theorem shorten_sublist (s : List Char) : (shorten s).Sublist s :=
  shortenBehind_sublist [] s

/-- A mark outlives a shortening. -/
theorem mem_shorten_of_not_isPathChar (hmem : c ∈ s) (hc : isPathChar c = false) :
    c ∈ shorten s := by
  obtain ⟨u, v, rfl⟩ := List.append_of_mem hmem
  rw [shorten_append_cons hc]
  simp

theorem isPath_of_isPath_shorten (h : isPath (shorten s) = true) : isPath s = true := by
  obtain ⟨hne, hpath⟩ := isPath_iff.1 h
  refine isPath_iff.2 ⟨?_, ?_⟩
  · rintro rfl
    exact hne shorten_nil
  · intro c hmem
    cases hc : isPathChar c with
    | true => rfl
    | false => rw [← hc, hpath c (mem_shorten_of_not_isPathChar hmem hc)]

/-- The first bracket stays where it is. -/
theorem headOf_shorten (s : List Char) : headOf (shorten s) = shorten (headOf s) := by
  have hrun : ∀ c ∈ shorten (headOf s), (c != '<') = true := by
    intro c hc
    exact List.all_eq_true.1 List.all_takeWhile c ((shorten_sublist _).subset hc)
  by_cases h : '<' ∈ s
  · obtain ⟨t, ht⟩ := exists_eq_headOf_append h
    have hbracket : isPathChar '<' = false := by decide
    calc
      headOf (shorten s) = headOf (shorten (headOf s ++ '<' :: t)) := by rw [← ht]
      _ = headOf (shorten (headOf s) ++ '<' :: shorten t) := by rw [shorten_append_cons hbracket]
      _ = shorten (headOf s) := takeWhile_append_of_run hrun (by simp)
  · rw [headOf_of_bracket_notMem h]
    exact headOf_of_bracket_notMem fun hmem => h ((shorten_sublist s).subset hmem)

/-! ### No colon is left -/

theorem colon_notMem_shortenBehind (h : EvenColonRuns s) (hsegment : ':' ∉ segment) :
    ':' ∉ shortenBehind segment s := by
  induction s using scan_induct generalizing segment with
  | nil => simpa [shortenBehind_end] using hsegment
  | separator s ih =>
    rw [shortenBehind_separator]
    exact ih (evenColonRuns_separator_iff.1 h) List.not_mem_nil
  | identifier c s hc ih =>
    have hcolon := ne_colon_of_isIdentifierChar hc
    rw [shortenBehind_identifier hc]
    exact ih ((evenColonRuns_cons_iff hcolon).1 h) (by simp [hsegment, hcolon.symm])
  | mark c s hc hsep ih =>
    -- a colon that is no part of a separator is a run of its own
    have hcolon : c ≠ ':' := by
      rintro rfl
      exact not_evenColonRuns_of_single (fun hs => hsep ⟨rfl, hs⟩) h
    have hrest : ':' ∉ shorten s := ih ((evenColonRuns_cons_iff hcolon).1 h) List.not_mem_nil
    rw [shortenBehind_mark hc hsep]
    simp [hsegment, hcolon.symm, hrest]

theorem colon_notMem_shorten (h : EvenColonRuns s) : ':' ∉ shorten s :=
  colon_notMem_shortenBehind h List.not_mem_nil

theorem colon_notMem_shortNameOf (h : EvenColonRuns s) : ':' ∉ shortNameOf s := by
  rw [shortNameOf]
  split
  next hpath =>
    rw [← shorten_eq_lastSegment (isPath_iff.1 hpath).2 h.headOf]
    exact colon_notMem_shorten h.headOf
  next => exact colon_notMem_shorten h

theorem not_separator_of_colon_notMem (h : ':' ∉ s) : ¬ [':', ':'] <:+: s :=
  fun hsep => h (hsep.subset (List.mem_cons_self ..))

/-! ### Short names of short names -/

theorem lastSegment_of_colon_notMem (h : ':' ∉ s) : lastSegment s = s := by
  have hnone : afterLastSeparator s = none := by
    induction s with
    | nil => rfl
    | cons c s ih =>
      rw [List.mem_cons, not_or] at h
      rw [afterLastSeparator_cons fun hsep => h.1 hsep.1.symm, ih h.2]
  rw [lastSegment, hnone, Option.getD_none]

/-- A text with nothing to cut off and no colon is its own short name. -/
theorem shortNameOf_eq_self (hpath : pathOf s = s) (hcolon : ':' ∉ s) : shortNameOf s = s := by
  rw [shortNameOf]
  split
  next hhead => rw [headOf_of_bracket_notMem (pathOf_eq_self_iff.1 hpath hhead),
    lastSegment_of_colon_notMem hcolon]
  next => exact shorten_eq_self (not_separator_of_colon_notMem hcolon)

/-- A short name has nothing to cut off: it is a segment, or it starts with no path. -/
theorem pathOf_shortNameOf (s : List Char) : pathOf (shortNameOf s) = shortNameOf s := by
  rw [pathOf_eq_self_iff, shortNameOf]
  split
  next hpath =>
    intro _ hmem
    exact bracket_notMem_headOf s (mem_of_mem_lastSegment hmem)
  next hpath =>
    intro hhead
    rw [headOf_shorten] at hhead
    exact absurd (isPath_of_isPath_shorten hhead) hpath

theorem shortNameOf_shortNameOf (h : EvenColonRuns s) :
    shortNameOf (shortNameOf s) = shortNameOf s :=
  shortNameOf_eq_self (pathOf_shortNameOf s) (colon_notMem_shortNameOf h)

end Text

/-! ### Symbols -/

namespace Symbol

variable {a b : Symbol}

theorem path_eq_of_fullName_eq_path (h : b.fullName = a.path) : b.path = a.path := by
  rw [← String.toList_inj, toList_path, h, toList_path, Text.pathOf_pathOf]

/-- The short name depends on the path alone. -/
theorem shortNameOf_toList_path (a : Symbol) : Text.shortNameOf a.path.toList = a.name.toList := by
  rw [toList_path, Text.shortNameOf_pathOf, toList_name]

theorem name_eq_of_path_eq (h : a.path = b.path) : a.name = b.name := by
  rw [← String.toList_inj, ← shortNameOf_toList_path, h, shortNameOf_toList_path]

theorem name_eq_of_fullName_eq_name (hcolons : Text.EvenColonRuns a.fullName.toList)
    (h : b.fullName = a.name) : b.name = a.name := by
  rw [← String.toList_inj, toList_name, h, toList_name, Text.shortNameOf_shortNameOf hcolons]

end Symbol

/-- **Paths and short names are stable.** A symbol whose full name is the path of another one has the same
path and the same short name. So the short name depends on the path alone, whatever arguments the full
names carry. Where colons stand in runs of even length, the short name has no separator in it and is
its own short name. -/
theorem names_are_stable (a b : Symbol) :
    (b.fullName = a.path → b.path = a.path ∧ b.name = a.name) ∧
    (a.path = b.path → a.name = b.name) ∧
    (Text.EvenColonRuns a.fullName.toList →
      ¬ "::".toList <:+: a.name.toList ∧ (b.fullName = a.name → b.name = a.name)) := by
  refine ⟨?_, Symbol.name_eq_of_path_eq, ?_⟩
  · intro h
    have hpath := Symbol.path_eq_of_fullName_eq_path h
    exact ⟨hpath, Symbol.name_eq_of_path_eq hpath⟩
  · intro hcolons
    refine ⟨?_, Symbol.name_eq_of_fullName_eq_name hcolons⟩
    have hcolon := Text.colon_notMem_shortNameOf hcolons
    rw [← a.toList_name] at hcolon
    exact Text.not_separator_of_colon_notMem hcolon

/-- A list of pairs, the path of lists, a list of numbers, and a pair with the short name it keeps. -/
theorem names_are_stable_of_lists :
    let ofPairs : Symbol := ⟨.numbered 0, "alloc::vec::Vec<(u8, u8)>"⟩
    let constructor : Symbol := ⟨.numbered 1, "alloc::vec::Vec"⟩
    let ofNumbers : Symbol := ⟨.numbered 2, "alloc::vec::Vec<i32>"⟩
    let pair : Symbol := ⟨.numbered 3, "(alloc::vec::Vec<&str>, ::größe::<u8>)"⟩
    let short : Symbol := ⟨.numbered 4, "(Vec<&str>, <u8>)"⟩
    (constructor.fullName = ofPairs.path ∧ constructor.path = ofPairs.path ∧
      constructor.name = ofPairs.name) ∧
    (ofPairs.path = ofNumbers.path ∧ ofPairs.name = ofNumbers.name) ∧
    Text.EvenColonRuns pair.fullName.toList ∧ ¬ "::".toList <:+: pair.name.toList ∧
      short.fullName = pair.name ∧ short.name = pair.name := by
  intro ofPairs constructor ofNumbers pair short
  have hconstructor : constructor.fullName = ofPairs.path := by decide +kernel
  have hpath : ofPairs.path = ofNumbers.path := by decide +kernel
  have hcolons : Text.EvenColonRuns pair.fullName.toList := by decide +kernel
  have hshort : short.fullName = pair.name := by decide +kernel
  obtain ⟨hsep, hname⟩ := (names_are_stable pair short).2.2 hcolons
  exact ⟨⟨hconstructor, (names_are_stable ofPairs constructor).1 hconstructor⟩,
    ⟨hpath, (names_are_stable ofPairs ofNumbers).2.1 hpath⟩, hcolons, hsep, hshort, hname hshort⟩

/-- An odd run of colons is a separator and a colon more, and what is left of two such runs may be a
separator again. -/
example :
    let a : Symbol := ⟨.numbered 0, "(:b:::c)"⟩
    let b : Symbol := ⟨.numbered 0, "(::c)"⟩
    b.fullName = a.name ∧ b.name = "(c)" := by
  decide +kernel

end TypeShape
