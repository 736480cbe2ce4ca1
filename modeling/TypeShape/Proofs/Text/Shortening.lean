import TypeShape.Proofs.Text.Run

/-!
# What a shortening writes

The machine that shortens a text is run to its end here, and what it has settled is never looked at
again. Hence the text it writes is put together from the parts of what it reads.

* `scan_induct`: induction on a text as the machine reads it; `scan_cases`: the forms of a text;
* `Scan.step_cases`: everything a step of the machine can do;
* `Scan.finished`: what a state has written in the end, and one equation for each kind of step;
* `shorten_append`: in front of a mark a text is shortened by itself; `shorten_append_cons`: so are the
  texts on both sides of it;
* `shorten_eq_self`: a text without a double colon is written as it is;
* `shortenByRuns`: the same without a machine, one run of identifier characters after the other.

Main statement: `shorten_eq_shortenByRuns`.
-/

namespace TypeShape

namespace Text

/-! ### Texts as the machine reads them -/

/-- Induction on a text: a double colon is read at once, every other character by itself. -/
@[elab_as_elim]
theorem scan_induct {motive : List Char → Prop} (nil : motive [])
    (separator : ∀ s, motive s → motive (':' :: ':' :: s))
    (identifier : ∀ c s, isIdentifierChar c = true → motive s → motive (c :: s))
    (mark : ∀ c s, isIdentifierChar c = false → ¬ (c = ':' ∧ s.head? = some ':') → motive s →
      motive (c :: s)) : ∀ s, motive s
  | [] => nil
  | [c] => by
    cases hc : isIdentifierChar c with
    | true => exact identifier c [] hc nil
    | false => exact mark c [] hc (by simp) nil
  | c :: c' :: s => by
    have hs := scan_induct nil separator identifier mark s
    have hs' := scan_induct nil separator identifier mark (c' :: s)
    by_cases hsep : c = ':' ∧ c' = ':'
    · obtain ⟨rfl, rfl⟩ := hsep
      exact separator s hs
    · cases hc : isIdentifierChar c with
      | true => exact identifier c (c' :: s) hc hs'
      | false => exact mark c (c' :: s) hc (by simpa using hsep) hs'

/-- The forms of a text as the machine reads it. -/
@[elab_as_elim]
theorem scan_cases {motive : List Char → Prop} (nil : motive [])
    (separator : ∀ s, motive (':' :: ':' :: s))
    (identifier : ∀ c s, isIdentifierChar c = true → motive (c :: s))
    (mark : ∀ c s, isIdentifierChar c = false → ¬ (c = ':' ∧ s.head? = some ':') →
      motive (c :: s)) (s : List Char) : motive s :=
  scan_induct nil (fun s _ => separator s) (fun c s hc _ => identifier c s hc)
    (fun c s hc hsep _ => mark c s hc hsep) s

/-! ### Running to the end -/

namespace Scan

variable {settled segment s : List Char} {c : Char}

theorem step_separator :
    step ⟨settled, segment, ':' :: ':' :: s⟩ = some ⟨settled, [], s⟩ := by
  rw [step]

theorem step_identifier (hc : isIdentifierChar c = true) :
    step ⟨settled, segment, c :: s⟩ = some ⟨settled, c :: segment, s⟩ := by
  have hcolon := ne_colon_of_isIdentifierChar hc
  simp [step, hc, hcolon]

theorem step_mark (hc : isIdentifierChar c = false) (hsep : ¬ (c = ':' ∧ s.head? = some ':')) :
    step ⟨settled, segment, c :: s⟩ = some ⟨c :: (segment ++ settled), [], s⟩ := by
  unfold step
  split
  next h => cases h
  next h =>
    cases h
    exact absurd ⟨rfl, rfl⟩ hsep
  next h =>
    cases h
    simp [hc]

/-- Everything a step can do. -/
theorem step_cases {st next : Scan} (h : st.step = some next) :
    (∃ s, st.rest = ':' :: ':' :: s ∧ next = ⟨st.settled, [], s⟩) ∨
    (∃ c s, st.rest = c :: s ∧ isIdentifierChar c = true ∧
      next = ⟨st.settled, c :: st.segment, s⟩) ∨
    (∃ c s, st.rest = c :: s ∧ isIdentifierChar c = false ∧ ¬ (c = ':' ∧ s.head? = some ':') ∧
      next = ⟨c :: (st.segment ++ st.settled), [], s⟩) := by
  obtain ⟨settled, segment, s⟩ := st
  cases s using scan_cases with
  | nil => cases h
  | separator s =>
    obtain rfl := Option.some.inj (step_separator.symm.trans h)
    exact Or.inl ⟨s, rfl, rfl⟩
  | identifier c s hc =>
    obtain rfl := Option.some.inj ((step_identifier hc).symm.trans h)
    exact Or.inr (Or.inl ⟨c, s, rfl, hc, rfl⟩)
  | mark c s hc hsep =>
    obtain rfl := Option.some.inj ((step_mark hc hsep).symm.trans h)
    exact Or.inr (Or.inr ⟨c, s, rfl, hc, hsep, rfl⟩)

theorem step_eq_none_iff {st : Scan} : st.step = none ↔ st.rest = [] := by
  constructor
  · intro h
    obtain ⟨settled, segment, s⟩ := st
    cases s using scan_cases with
    | nil => rfl
    | separator s => cases step_separator.symm.trans h
    | identifier c s hc => cases (step_identifier hc).symm.trans h
    | mark c s hc hsep => cases (step_mark hc hsep).symm.trans h
  · obtain ⟨settled, segment, s⟩ := st
    rintro rfl
    rfl

theorem after_of_rest_eq_nil {st : Scan} (h : st.rest = []) (n : Nat) : after n st = st := by
  obtain ⟨settled, segment, rest⟩ := st
  obtain rfl : rest = [] := h
  cases n <;> rfl

/-- A run of one step more ends with that step. -/
theorem after_succ (n : Nat) (st : Scan) :
    after (n + 1) st = ((after n st).step).getD (after n st) := by
  induction n generalizing st with
  | zero =>
    rw [after, after]
    cases st.step <;> rfl
  | succ n ih =>
    rw [after, after]
    cases hst : st.step with
    | none => rw [hst, Option.getD_none]
    | some next => exact ih next

/-- Once there are enough steps to read the text, more of them change nothing. -/
theorem after_eq_after {n m : Nat} {st : Scan} (hn : st.rest.length ≤ n) (hm : st.rest.length ≤ m) :
    after n st = after m st := by
  induction n generalizing m st with
  | zero =>
    have hnil : st.rest = [] := List.eq_nil_of_length_eq_zero (Nat.le_zero.1 hn)
    rw [after_of_rest_eq_nil hnil, after_of_rest_eq_nil hnil]
  | succ n ih =>
    cases m with
    | zero =>
      have hnil : st.rest = [] := List.eq_nil_of_length_eq_zero (Nat.le_zero.1 hm)
      rw [after_of_rest_eq_nil hnil, after_of_rest_eq_nil hnil]
    | succ m =>
      rw [after, after]
      cases hst : st.step with
      | none => rfl
      | some next =>
        have hlt := length_rest_of_step hst
        exact ih (by omega) (by omega)

/-- What a state has written when everything is read. -/
def finished (st : Scan) : List Char := (after st.rest.length st).written

theorem finished_of_step {st next : Scan} (h : st.step = some next) :
    st.finished = next.finished := by
  have hlt := length_rest_of_step h
  obtain ⟨n, hn⟩ : ∃ n, st.rest.length = n + 1 := Nat.exists_eq_succ_of_ne_zero (by omega)
  rw [finished, finished, hn, after, h]
  exact congrArg written (after_eq_after (by omega) (Nat.le_refl _))

/-- What is settled is not looked at again. -/
theorem finished_eq_append (settled segment s : List Char) :
    finished ⟨settled, segment, s⟩ = settled.reverse ++ finished ⟨[], segment, s⟩ := by
  induction s using scan_induct generalizing settled segment with
  | nil => simp [finished, after, written]
  | separator s ih =>
    rw [finished_of_step step_separator, finished_of_step step_separator, ih]
  | identifier c s hc ih =>
    rw [finished_of_step (step_identifier hc), finished_of_step (step_identifier hc), ih]
  | mark c s hc hsep ih =>
    rw [finished_of_step (step_mark hc hsep), finished_of_step (step_mark hc hsep), ih,
      ih (c :: (segment ++ []))]
    simp

end Scan

/-! ### Shortening behind a segment -/

/-- What a text is shortened to behind a segment that is being read, the latest character first. -/
def shortenBehind (segment s : List Char) : List Char := Scan.finished ⟨[], segment, s⟩

section Equations

variable {segment s : List Char} {c : Char}

theorem shortenBehind_nil (s : List Char) : shortenBehind [] s = shorten s := rfl

theorem shortenBehind_end : shortenBehind segment [] = segment.reverse := by
  simp [shortenBehind, Scan.finished, Scan.after, Scan.written]

theorem shortenBehind_separator : shortenBehind segment (':' :: ':' :: s) = shorten s :=
  Scan.finished_of_step Scan.step_separator

theorem shortenBehind_identifier (hc : isIdentifierChar c = true) :
    shortenBehind segment (c :: s) = shortenBehind (c :: segment) s :=
  Scan.finished_of_step (Scan.step_identifier hc)

theorem shortenBehind_mark (hc : isIdentifierChar c = false)
    (hsep : ¬ (c = ':' ∧ s.head? = some ':')) :
    shortenBehind segment (c :: s) = segment.reverse ++ c :: shorten s := by
  rw [shortenBehind, Scan.finished_of_step (Scan.step_mark hc hsep), Scan.finished_eq_append]
  simp [← shortenBehind_nil, shortenBehind]

/-! ### Shortening part by part -/

/-- A mark is written as it is. -/
theorem shorten_cons_of_not_isPathChar (hc : isPathChar c = false) :
    shorten (c :: s) = c :: shorten s := by
  obtain ⟨hidentifier, hcolon⟩ := isPathChar_eq_false_iff.1 hc
  exact shortenBehind_mark hidentifier fun hsep => hcolon hsep.1

theorem shortenBehind_append {rest : List Char} (hrest : ∀ c ∈ rest.head?, isPathChar c = false) :
    shortenBehind segment (s ++ rest) = shortenBehind segment s ++ shorten rest := by
  induction s using scan_induct generalizing segment with
  | nil =>
    rw [shortenBehind_end, List.nil_append]
    cases rest with
    | nil => rw [shortenBehind_end, shorten_nil, List.append_nil]
    | cons c rest =>
      have hc : isPathChar c = false := hrest c rfl
      obtain ⟨hidentifier, hcolon⟩ := isPathChar_eq_false_iff.1 hc
      rw [shorten_cons_of_not_isPathChar hc]
      exact shortenBehind_mark hidentifier fun hsep => hcolon hsep.1
  | separator s ih =>
    rw [List.cons_append, List.cons_append, shortenBehind_separator, shortenBehind_separator]
    exact ih
  | identifier c s hc ih =>
    rw [List.cons_append, shortenBehind_identifier hc, shortenBehind_identifier hc, ih]
  | mark c s hc hsep ih =>
    have hsep' : ¬ (c = ':' ∧ (s ++ rest).head? = some ':') := by
      cases s with
      | nil =>
        rintro ⟨-, hcolon⟩
        have hmark := hrest ':' hcolon
        revert hmark
        decide
      | cons c' s => exact hsep
    rw [List.cons_append, shortenBehind_mark hc hsep', shortenBehind_mark hc hsep, List.append_assoc,
      List.cons_append]
    exact congrArg (fun t => segment.reverse ++ c :: t) ih

/-- In front of a mark, a text is shortened by itself. -/
theorem shorten_append {rest : List Char} (hrest : ∀ c ∈ rest.head?, isPathChar c = false) :
    shorten (s ++ rest) = shorten s ++ shorten rest :=
  shortenBehind_append hrest

/-- The texts on both sides of a mark are shortened by themselves. -/
theorem shorten_append_cons (hc : isPathChar c = false) (s t : List Char) :
    shorten (s ++ c :: t) = shorten s ++ c :: shorten t := by
  rw [shorten_append (not_isPathChar_head?_cons hc t), shorten_cons_of_not_isPathChar hc]

/-- Behind a mark, a text is shortened by itself. -/
theorem shorten_concat_append (hc : isPathChar c = false) (rest : List Char) :
    shorten (s ++ [c] ++ rest) = shorten (s ++ [c]) ++ shorten rest := by
  rw [List.append_assoc, List.singleton_append, shorten_append_cons hc, shorten_append_cons hc,
    shorten_nil, List.append_assoc, List.singleton_append]

theorem shortenBehind_of_no_separator (h : ¬ [':', ':'] <:+: s) :
    shortenBehind segment s = segment.reverse ++ s := by
  induction s using scan_induct generalizing segment with
  | nil => rw [shortenBehind_end, List.append_nil]
  | separator s ih => exact absurd ⟨[], s, rfl⟩ h
  | identifier c s hc ih =>
    rw [shortenBehind_identifier hc, ih fun hs => h (List.infix_cons hs), List.reverse_cons,
      List.append_assoc, List.singleton_append]
  | mark c s hc hsep ih =>
    rw [shortenBehind_mark hc hsep, ← shortenBehind_nil, ih fun hs => h (List.infix_cons hs)]
    rfl

/-- A text without a double colon is written as it is. -/
theorem shorten_eq_self (h : ¬ [':', ':'] <:+: s) : shorten s = s :=
  shortenBehind_of_no_separator h

/-! ### Shortening run by run -/

theorem shortenBehind_run {run : List Char} (hrun : ∀ c ∈ run, isIdentifierChar c = true) :
    shortenBehind segment (run ++ s) = shortenBehind (run.reverse ++ segment) s := by
  induction run generalizing segment with
  | nil => rfl
  | cons c run ih =>
    rw [List.cons_append, shortenBehind_identifier (hrun c (List.mem_cons_self ..)),
      ih fun c hc => hrun c (List.mem_cons_of_mem _ hc), List.reverse_cons, List.append_assoc,
      List.singleton_append]

/-- A run in front of a double colon goes with it. -/
theorem shorten_run_separator {run : List Char} (hrun : ∀ c ∈ run, isIdentifierChar c = true) :
    shorten (run ++ ':' :: ':' :: s) = shorten s := by
  rw [← shortenBehind_nil, shortenBehind_run hrun, shortenBehind_separator]

end Equations

/-- The run in front of a text is read before its fate is known. -/
theorem shorten_eq_shortenBehind_run (s : List Char) :
    shorten s =
      shortenBehind (s.takeWhile isIdentifierChar).reverse (s.dropWhile isIdentifierChar) := by
  have hrun : ∀ c ∈ s.takeWhile isIdentifierChar, isIdentifierChar c = true :=
    List.all_eq_true.1 List.all_takeWhile
  calc
    shorten s = shorten (s.takeWhile isIdentifierChar ++ s.dropWhile isIdentifierChar) := by
      rw [List.takeWhile_append_dropWhile]
    _ = shortenBehind (s.takeWhile isIdentifierChar).reverse (s.dropWhile isIdentifierChar) := by
      rw [← shortenBehind_nil, shortenBehind_run hrun, List.append_nil]

/-- The shortened text, one run of identifier characters after the other: a run in front of a double
colon goes with it, any other run stays, with the character behind it. -/
def shortenByRuns (s : List Char) : List Char :=
  match _h : s.dropWhile isIdentifierChar with
  | ':' :: ':' :: rest => shortenByRuns rest
  | [] => s.takeWhile isIdentifierChar
  | c :: rest => s.takeWhile isIdentifierChar ++ c :: shortenByRuns rest
termination_by s.length
decreasing_by
  all_goals
    have hle := (List.dropWhile_suffix isIdentifierChar (l := s)).length_le
    rw [_h] at hle
    simp only [List.length_cons] at hle
    omega

/-- **Shortening takes a text run by run**, however colons and other marks stand in it: what the machine
has written in the end, after all that it has dropped again, is what the runs say from the start. -/
theorem shorten_eq_shortenByRuns (s : List Char) : shorten s = shortenByRuns s := by
  fun_induction shortenByRuns s with
  | case1 s rest h ih => rw [shorten_eq_shortenBehind_run, h, shortenBehind_separator, ih]
  | case2 s h => rw [shorten_eq_shortenBehind_run, h, shortenBehind_end, List.reverse_reverse]
  | case3 s c rest hsep h ih =>
    have hmark : isIdentifierChar c = false := eq_false_of_dropWhile_eq_cons h
    have hsingle : ¬ (c = ':' ∧ rest.head? = some ':') := by
      rintro ⟨rfl, hcolon⟩
      obtain ⟨rest', rfl⟩ := List.head?_eq_some_iff.1 hcolon
      exact hsep rest' rfl rfl
    rw [shorten_eq_shortenBehind_run, h, shortenBehind_mark hmark hsingle, List.reverse_reverse, ih]

/-- Three colons in a row are a double one and a lone one behind it. -/
example : shorten "a::(:b:::c)".toList = "(::c)".toList := by decide +kernel

end Text

end TypeShape
