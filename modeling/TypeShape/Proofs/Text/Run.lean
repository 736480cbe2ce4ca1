import TypeShape.Symbol

/-!
# Runs at the front of a text

A run of characters of a class ends where the first other character stands, so a text has one such run
in front.

* `append_inj_of_run`: the run and what follows it are known from the text; `append_inj_of_last_run`:
  so are a run at the end and what stands in front of it;
* `toDigits_inj`: a numeral is known from its digits;
* `isPath_iff`, `mem_of_mem_lastSegment`: the characters of a path and of its last segment;
* `Symbol.PathNamed`: a symbol whose full name starts with a path; its renderings have no other
  characters than a path has.
-/

namespace TypeShape

namespace Text

/-! ### Runs -/

theorem takeWhile_append_of_run {p : Char → Bool} {run rest : List Char}
    (hrun : ∀ c ∈ run, p c = true) (hrest : ∀ c ∈ rest.head?, p c = false) :
    (run ++ rest).takeWhile p = run := by
  rw [List.takeWhile_append_of_pos hrun]
  cases rest with
  | nil => simp
  | cons c rest => simp [hrest c rfl]

theorem dropWhile_append_of_run {p : Char → Bool} {run rest : List Char}
    (hrun : ∀ c ∈ run, p c = true) (hrest : ∀ c ∈ rest.head?, p c = false) :
    (run ++ rest).dropWhile p = rest := by
  rw [List.dropWhile_append_of_pos hrun]
  cases rest with
  | nil => simp
  | cons c rest => simp [hrest c rfl]

theorem eq_false_of_dropWhile_eq_cons {p : Char → Bool} {s rest : List Char} {c : Char}
    (h : s.dropWhile p = c :: rest) : p c = false := by
  have hfirst := List.head?_dropWhile_not p s
  simpa [h] using hfirst

theorem append_inj_of_run {p : Char → Bool} {run run' rest rest' : List Char}
    (hrun : ∀ c ∈ run, p c = true) (hrun' : ∀ c ∈ run', p c = true)
    (hrest : ∀ c ∈ rest.head?, p c = false) (hrest' : ∀ c ∈ rest'.head?, p c = false)
    (h : run ++ rest = run' ++ rest') : run = run' ∧ rest = rest' := by
  have hsame : run = run' := by
    rw [← takeWhile_append_of_run hrun hrest, h, takeWhile_append_of_run hrun' hrest']
  subst hsame
  exact ⟨rfl, List.append_cancel_left h⟩

/-- A run at the end of a text and what stands in front of it are known from the text. -/
theorem append_inj_of_last_run {p : Char → Bool} {front front' run run' : List Char}
    (hrun : ∀ c ∈ run, p c = true) (hrun' : ∀ c ∈ run', p c = true)
    (hfront : ∀ c ∈ front.getLast?, p c = false) (hfront' : ∀ c ∈ front'.getLast?, p c = false)
    (h : front ++ run = front' ++ run') : front = front' ∧ run = run' := by
  have hreverse := congrArg List.reverse h
  rw [List.reverse_append, List.reverse_append] at hreverse
  obtain ⟨hr, hf⟩ := append_inj_of_run (p := p) (by simpa using hrun) (by simpa using hrun')
    (by simpa using hfront) (by simpa using hfront') hreverse
  exact ⟨List.reverse_inj.1 hf, List.reverse_inj.1 hr⟩

/-! ### Numerals -/

theorem isDigit_of_mem_toDigits {c : Char} {n : Nat} (hc : c ∈ Nat.toDigits 10 n) :
    c.isDigit = true :=
  Nat.isDigit_of_mem_toDigits (by decide) (by decide) hc

theorem notMem_toDigits {c : Char} (hc : c.isDigit = false) (n : Nat) : c ∉ Nat.toDigits 10 n := by
  intro hn
  rw [isDigit_of_mem_toDigits hn] at hc
  cases hc

theorem exists_toDigits_eq_cons (n : Nat) :
    ∃ c s, Nat.toDigits 10 n = c :: s ∧ c.isDigit = true := by
  cases hn : Nat.toDigits 10 n with
  | nil => exact absurd hn Nat.toDigits_ne_nil
  | cons c s =>
    have hc : c ∈ Nat.toDigits 10 n := by simp [hn]
    exact ⟨c, s, rfl, isDigit_of_mem_toDigits hc⟩

theorem toDigits_inj {m n : Nat} (h : Nat.toDigits 10 m = Nat.toDigits 10 n) : m = n :=
  calc
    m = Nat.ofDigitChars 10 (Nat.toDigits 10 m) 0 := Nat.ofDigitChars_ten_toDigits.symm
    _ = Nat.ofDigitChars 10 (Nat.toDigits 10 n) 0 := by rw [h]
    _ = n := Nat.ofDigitChars_ten_toDigits

theorem toDigits_append_inj {m n : Nat} {rest rest' : List Char}
    (hrest : ∀ c ∈ rest.head?, c.isDigit = false) (hrest' : ∀ c ∈ rest'.head?, c.isDigit = false)
    (h : Nat.toDigits 10 m ++ rest = Nat.toDigits 10 n ++ rest') : m = n ∧ rest = rest' := by
  obtain ⟨hmn, rfl⟩ := append_inj_of_run (fun _ => isDigit_of_mem_toDigits)
    (fun _ => isDigit_of_mem_toDigits) hrest hrest' h
  exact ⟨toDigits_inj hmn, rfl⟩

/-! ### Characters of paths -/

/-- An identifier character or a colon. -/
def isPathChar (c : Char) : Bool := isIdentifierChar c || c == ':'

theorem isPathChar_of_isIdentifierChar {c : Char} (h : isIdentifierChar c = true) :
    isPathChar c = true := by
  rw [isPathChar, h, Bool.true_or]

theorem ne_colon_of_isIdentifierChar {c : Char} (h : isIdentifierChar c = true) : c ≠ ':' := by
  rintro rfl
  rw [isIdentifierChar_colon] at h
  cases h

theorem isPathChar_eq_false_iff {c : Char} :
    isPathChar c = false ↔ isIdentifierChar c = false ∧ c ≠ ':' := by
  rw [isPathChar, Bool.or_eq_false_iff, beq_eq_false_iff_ne]

theorem not_isPathChar_head?_cons {c : Char} (hc : isPathChar c = false) (s : List Char) :
    ∀ x ∈ (c :: s).head?, isPathChar x = false := by
  intro x hx
  obtain rfl : c = x := Option.some.inj hx
  exact hc

theorem isPath_iff {s : List Char} : isPath s = true ↔ s ≠ [] ∧ ∀ c ∈ s, isPathChar c = true := by
  simp [isPath, isPathChar]

theorem suffix_of_afterLastSeparator {s segment : List Char}
    (h : afterLastSeparator s = some segment) : segment <:+ s := by
  induction s with
  | nil => cases h
  | cons c rest ih =>
    unfold afterLastSeparator at h
    split at h
    next found hfound =>
      obtain rfl := Option.some.inj h
      exact (ih hfound).trans (List.suffix_cons c rest)
    next =>
      split at h
      next found _ =>
        obtain rfl := Option.some.inj h
        exact (List.suffix_cons ':' _).trans (List.suffix_cons ':' _)
      · cases h

theorem mem_of_mem_lastSegment {s : List Char} {c : Char} (h : c ∈ lastSegment s) : c ∈ s := by
  rw [lastSegment] at h
  cases hs : afterLastSeparator s with
  | none => simpa [hs] using h
  | some segment =>
    rw [hs] at h
    exact (suffix_of_afterLastSeparator hs).subset h

end Text

/-! ### Symbols named by paths -/

namespace Symbol

/-- **The symbol is named by a path**: what stands before the first `<` of its full name is one. -/
def PathNamed (a : Symbol) : Prop := Text.isPath (Text.headOf a.fullName.toList) = true

instance : DecidablePred PathNamed := fun a =>
  inferInstanceAs (Decidable (Text.isPath (Text.headOf a.fullName.toList) = true))

theorem PathNamed.isPathChar_of_mem {a : Symbol} (h : a.PathNamed) (style : NameStyle) {c : Char}
    (hc : c ∈ a.text style) : Text.isPathChar c = true := by
  have hhead := (Text.isPath_iff.1 h).2
  rw [PathNamed] at h
  cases style with
  | short =>
    rw [text, Text.shortNameOf, if_pos h] at hc
    exact hhead c (Text.mem_of_mem_lastSegment hc)
  | full =>
    rw [text, Text.pathOf, if_pos h] at hc
    exact hhead c hc

end Symbol

end TypeShape
