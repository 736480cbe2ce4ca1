import Mathlib.Tactic.SplitIfs
import TypeShape.Proofs.Diagnostic.JsonReading

/-!
# Pretty JSON texts are read in one way

The pretty form of a value is its compact form with line breaks and blanks between the tokens. Inside a
string a blank is no layout, so what drops the layout has to know where strings begin and end, and a
quotation mark behind a backslash is no end.

* `dropLayout`: a text without the line breaks and blanks between its tokens;
* `dropLayout_stringOnto`: a string is kept as it is, whatever characters it holds;
* `dropLayout_prettyOnto`: what the pretty form is without its layout.

Main statement: `Json.pretty_inj`.
-/

namespace TypeShape

namespace Json

/-- Where in a text a character stands. -/
inductive Place where
  /-- Between or in tokens other than strings. -/
  | outside
  /-- In a string. -/
  | inside
  /-- In a string, right behind a backslash. -/
  | escaped

/-- A text without the line breaks and blanks outside of strings. -/
def dropLayout : Place → List Char → List Char
  | _, [] => []
  | .outside, c :: s =>
    if c = '"' then c :: dropLayout .inside s
    else if c = ' ' ∨ c = '\n' then dropLayout .outside s
    else c :: dropLayout .outside s
  | .inside, c :: s =>
    c :: dropLayout (if c = '"' then .outside else if c = '\\' then .escaped else .inside) s
  | .escaped, c :: s => c :: dropLayout .inside s

/-! ### Strings -/

/-- How a character stands inside a string: as it is, or behind a backslash with marks that neither end
the string nor escape anything. -/
theorem escape_eq_singleton_or_cons (c : Char) :
    (escape c = [c] ∧ c ≠ '"' ∧ c ≠ '\\') ∨
      ∃ d tail, escape c = '\\' :: d :: tail ∧ ∀ x ∈ tail, x ≠ '"' ∧ x ≠ '\\' := by
  have hshort : ∀ d, ∃ d' tail, ['\\', d] = '\\' :: d' :: tail ∧ ∀ x ∈ tail, x ≠ '"' ∧ x ≠ '\\' :=
    fun d => ⟨d, [], rfl, by simp⟩
  have hdigit : ∀ n < 16, Nat.digitChar n ≠ '"' ∧ Nat.digitChar n ≠ '\\' := by decide
  unfold escape
  split_ifs with hquote hslash hback hfeed hline hreturn htab hcontrol
  iterate 7 exact Or.inr (hshort _)
  · have hhigh := hdigit (c.toNat / 16) (by omega)
    have hlow := hdigit (c.toNat % 16) (by omega)
    exact Or.inr ⟨_, _, rfl, by simp [hhigh, hlow]⟩
  · exact Or.inl ⟨rfl, by simpa using hquote, by simpa using hslash⟩

theorem dropLayout_inside_append {t : List Char} (ht : ∀ x ∈ t, x ≠ '"' ∧ x ≠ '\\')
    (rest : List Char) : dropLayout .inside (t ++ rest) = t ++ dropLayout .inside rest := by
  induction t with
  | nil => rfl
  | cons x t ih =>
    obtain ⟨hquote, hslash⟩ := ht x (List.mem_cons_self ..)
    rw [List.cons_append, dropLayout, if_neg hquote, if_neg hslash,
      ih fun x hx => ht x (List.mem_cons_of_mem _ hx), List.cons_append]

theorem dropLayout_escape (c : Char) (rest : List Char) :
    dropLayout .inside (escape c ++ rest) = escape c ++ dropLayout .inside rest := by
  rcases escape_eq_singleton_or_cons c with ⟨hc, hquote, hslash⟩ | ⟨d, tail, hc, htail⟩
  · rw [hc]
    exact dropLayout_inside_append (by simp [hquote, hslash]) rest
  · rw [hc, List.cons_append, List.cons_append, dropLayout, if_neg (by decide), if_pos rfl,
      dropLayout, dropLayout_inside_append htail, List.cons_append, List.cons_append]

/-- A string is kept as it is. -/
theorem dropLayout_stringOnto (s : String) (rest : List Char) :
    dropLayout .outside (stringOnto s rest) = stringOnto s (dropLayout .outside rest) := by
  have hinside : ∀ t : List Char, dropLayout .inside (t.flatMap escape ++ '"' :: rest) =
      t.flatMap escape ++ '"' :: dropLayout .outside rest := by
    intro t
    induction t with
    | nil => simp [dropLayout]
    | cons c t ih =>
      rw [List.flatMap_cons, List.append_assoc, dropLayout_escape, ih, List.append_assoc]
  rw [stringOnto, dropLayout, if_pos rfl, hinside, stringOnto]

/-! ### Between strings -/

theorem dropLayout_breakOnto (level : Nat) (rest : List Char) :
    dropLayout .outside (breakOnto level rest) = dropLayout .outside rest := by
  have hblanks : ∀ n, dropLayout .outside (List.replicate n ' ' ++ rest) =
      dropLayout .outside rest := by
    intro n
    induction n with
    | zero => rfl
    | succ n ih => simpa [List.replicate_succ, dropLayout] using ih
  rw [breakOnto, dropLayout, if_neg (by decide), if_pos (Or.inr rfl), hblanks]

/-- A mark that is neither a quotation mark nor layout is kept. -/
theorem dropLayout_outside_cons {c : Char} (hquote : c ≠ '"') (hlayout : ¬ (c = ' ' ∨ c = '\n'))
    (rest : List Char) : dropLayout .outside (c :: rest) = c :: dropLayout .outside rest := by
  rw [dropLayout, if_neg hquote, if_neg hlayout]

theorem dropLayout_outside_append {t : List Char}
    (ht : ∀ c ∈ t, c ≠ '"' ∧ ¬ (c = ' ' ∨ c = '\n')) (rest : List Char) :
    dropLayout .outside (t ++ rest) = t ++ dropLayout .outside rest := by
  induction t with
  | nil => rfl
  | cons c t ih =>
    obtain ⟨hquote, hlayout⟩ := ht c (List.mem_cons_self ..)
    rw [List.cons_append, dropLayout_outside_cons hquote hlayout,
      ih fun c hc => ht c (List.mem_cons_of_mem _ hc), List.cons_append]

theorem dropLayout_toDigits (n : Nat) (rest : List Char) :
    dropLayout .outside (Nat.toDigits 10 n ++ rest) =
      Nat.toDigits 10 n ++ dropLayout .outside rest := by
  refine dropLayout_outside_append (fun c hc => ?_) rest
  have hdigit := Text.isDigit_of_mem_toDigits hc
  constructor
  · rintro rfl
    cases hdigit
  · rintro (rfl | rfl) <;> cases hdigit

/-! ### Values -/

/-- Without its layout, the pretty form of a value at any level is its compact form. -/
def Compacts (j : Json) : Prop :=
  ∀ level rest, dropLayout .outside (prettyOnto level j rest) =
    renderOnto j (dropLayout .outside rest)

theorem dropLayout_prettyItemsOnto {js : List Json} (hjs : ∀ j ∈ js, Compacts j) (level : Nat)
    (rest : List Char) : dropLayout .outside (prettyItemsOnto level js rest) =
      itemsOnto js (dropLayout .outside rest) := by
  induction js with
  | nil => rfl
  | cons j js ih =>
    rw [prettyItemsOnto, dropLayout_outside_cons (by decide) (by decide), dropLayout_breakOnto,
      hjs j (List.mem_cons_self ..), ih fun j hj => hjs j (List.mem_cons_of_mem _ hj), itemsOnto]

/-- A field and what follows it. -/
theorem dropLayout_field (k : String) {j : Json} (hj : Compacts j) (level : Nat) (rest : List Char) :
    dropLayout .outside (stringOnto k (':' :: ' ' :: prettyOnto level j rest)) =
      stringOnto k (':' :: renderOnto j (dropLayout .outside rest)) := by
  rw [dropLayout_stringOnto, dropLayout_outside_cons (by decide) (by decide), dropLayout,
    if_neg (by decide), if_pos (Or.inl rfl), hj]

theorem dropLayout_prettyFieldsOnto {fs : List (String × Json)} (hfs : ∀ f ∈ fs, Compacts f.2)
    (level : Nat) (rest : List Char) : dropLayout .outside (prettyFieldsOnto level fs rest) =
      fieldsOnto fs (dropLayout .outside rest) := by
  induction fs with
  | nil => rfl
  | cons f fs ih =>
    obtain ⟨k, j⟩ := f
    rw [prettyFieldsOnto, dropLayout_outside_cons (by decide) (by decide), dropLayout_breakOnto,
      dropLayout_field k (hfs (k, j) (List.mem_cons_self ..)),
      ih fun f hf => hfs f (List.mem_cons_of_mem _ hf), fieldsOnto]

theorem dropLayout_prettyOnto (j : Json) : Compacts j := by
  induction j using induct with
  | null =>
    intro level rest
    rw [prettyOnto, renderOnto]
    exact dropLayout_outside_append (by simp) rest
  | number n =>
    intro level rest
    rw [prettyOnto, renderOnto, dropLayout_toDigits]
  | string s =>
    intro level rest
    rw [prettyOnto, renderOnto, dropLayout_stringOnto]
  | array js ih =>
    intro level rest
    cases js with
    | nil =>
      rw [prettyOnto, renderOnto]
      exact dropLayout_outside_append (t := ['[', ']']) (by simp) rest
    | cons j js =>
      rw [prettyOnto, dropLayout_outside_cons (by decide) (by decide), dropLayout_breakOnto,
        ih j (List.mem_cons_self ..),
        dropLayout_prettyItemsOnto fun j hj => ih j (List.mem_cons_of_mem _ hj),
        dropLayout_breakOnto, dropLayout_outside_cons (by decide) (by decide), renderOnto]
  | object fs ih =>
    intro level rest
    cases fs with
    | nil =>
      rw [prettyOnto, renderOnto]
      exact dropLayout_outside_append (t := ['\x7b', '\x7d']) (by simp) rest
    | cons f fs =>
      obtain ⟨k, j⟩ := f
      rw [prettyOnto, dropLayout_outside_cons (by decide) (by decide), dropLayout_breakOnto,
        dropLayout_field k (ih (k, j) (List.mem_cons_self ..)),
        dropLayout_prettyFieldsOnto fun f hf => ih f (List.mem_cons_of_mem _ hf),
        dropLayout_breakOnto, dropLayout_outside_cons (by decide) (by decide), renderOnto]

theorem dropLayout_pretty (j : Json) : dropLayout .outside j.pretty.toList = j.text := by
  rw [pretty, String.toList_ofList]
  exact dropLayout_prettyOnto j 0 []

/-- Two values have the same pretty form exactly when they are the same value. -/
theorem pretty_inj {j j' : Json} : j.pretty = j'.pretty ↔ j = j' := by
  constructor
  · intro h
    rw [← render_inj, render, render, ← dropLayout_pretty, h, dropLayout_pretty]
  · rintro rfl
    rfl

end Json

end TypeShape
