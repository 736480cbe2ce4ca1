import TypeShape.Text.Blank

/-!
# Modes of a pattern

A pattern is read in modes, which its flags switch. Patterns are read without the character tables
of Unicode, and they match whole characters only. So in the plain mode a pattern may not ask for a
table, which ignoring case does as soon as there is a character to ignore the case of; and in the
mode that reads bytes it may not ask for bytes that are no character.

* `Behind`: what a reader leaves of a text, which is the end of it.
* `Modes.skip`: drops what a spaced pattern may contain between its parts. Main statements:
  `skip_suffix`, what is left is the end of the text; `skip_skip`, nothing is left to drop.
* `Modes.switch`: the modes that flags lead to. Main statement: `switch_switch`, the same flags once
  more change nothing.
-/

namespace TypeShape.Text.Pattern

/-! ### What is left to read -/

/-- **What is left of a text** behind a part of it, which has one character at least. -/
structure Behind (rest s : List Char) : Prop where
  suffix : rest <:+ s
  length_lt : rest.length < s.length

namespace Behind

variable {rest s t : List Char}

theorem of_suffix (c : Char) (h : rest <:+ s) : Behind rest (c :: s) :=
  ⟨h.trans (List.suffix_cons c s), Nat.lt_succ_of_le h.length_le⟩

theorem trans_suffix (h : Behind rest s) (hs : s <:+ t) : Behind rest t :=
  ⟨h.suffix.trans hs, Nat.lt_of_lt_of_le h.length_lt hs.length_le⟩

theorem suffix_trans (h : rest <:+ s) (hs : Behind s t) : Behind rest t :=
  ⟨h.trans hs.suffix, Nat.lt_of_le_of_lt h.length_le hs.length_lt⟩

end Behind

/-! ### Modes -/

/-- How a pattern is read at a place. -/
structure Modes where
  folded : Bool := false
  /-- Bytes are matched instead of characters. -/
  bytes : Bool := false
  /-- Blanks mean nothing, and a number sign starts a remark. -/
  spaced : Bool := false

/-- Drops blanks and remarks. A remark ends with its line. -/
def skipBlanks (inRemark : Bool) : List Char → List Char
  | [] => []
  | c :: cs =>
    if inRemark then skipBlanks (c != '\n') cs
    else if isBlank c then skipBlanks false cs
    else if c == '#' then skipBlanks true cs
    else c :: cs

theorem skipBlanks_suffix (inRemark : Bool) (s : List Char) : skipBlanks inRemark s <:+ s := by
  induction s generalizing inRemark with
  | nil => exact List.suffix_refl []
  | cons c cs ih =>
    have hrest : ∀ inRemark, skipBlanks inRemark cs <:+ c :: cs :=
      fun inRemark => (ih inRemark).trans (List.suffix_cons c cs)
    unfold skipBlanks
    split
    · exact hrest _
    · split
      · exact hrest _
      · split
        · exact hrest _
        · exact List.suffix_refl _

theorem skipBlanks_skipBlanks (inRemark : Bool) (s : List Char) :
    skipBlanks false (skipBlanks inRemark s) = skipBlanks inRemark s := by
  induction s generalizing inRemark with
  | nil => rfl
  | cons c cs ih =>
    by_cases hremark : inRemark
    · simp only [skipBlanks, hremark, if_true]
      exact ih _
    by_cases hblank : isBlank c
    · simp only [skipBlanks, hremark, hblank, if_true]
      exact ih _
    by_cases hsign : c == '#'
    · simp only [skipBlanks, hremark, hblank, hsign, if_true]
      exact ih _
    · simp [skipBlanks, hremark, hblank, hsign]

namespace Modes

/-- Drops what means nothing before the next part. -/
def skip (m : Modes) (s : List Char) : List Char := if m.spaced then skipBlanks false s else s

theorem skip_suffix (m : Modes) (s : List Char) : m.skip s <:+ s := by
  unfold skip
  split
  · exact skipBlanks_suffix false s
  · exact List.suffix_refl s

theorem skip_skip (m : Modes) (s : List Char) : m.skip (m.skip s) = m.skip s := by
  unfold skip
  split
  · exact skipBlanks_skipBlanks false s
  · rfl

end Modes

theorem Behind.of_skip {m : Modes} {rest s : List Char} (h : Behind rest (m.skip s)) :
    Behind rest s :=
  h.trans_suffix (m.skip_suffix s)

namespace Modes

/-- The character that decides whether a hyphen stands for itself: the next one or, in a spaced
pattern, the next that is not blank, past at most one number sign. -/
def peek (m : Modes) (s : List Char) : Option Char :=
  if m.spaced then
    match s.dropWhile isBlank with
    | '#' :: rest => (rest.dropWhile isBlank).head?
    | rest => rest.head?
  else s.head?

/-- Whether a flag is on after flags: those behind a hyphen are off, and one that is not named stays
as it was. -/
def flagAfter (flag : Char) (flags : List Char) (before : Bool) : Bool :=
  if (flags.takeWhile (· != '-')).contains flag then true
  else if (flags.dropWhile (· != '-')).contains flag then false
  else before

theorem flagAfter_flagAfter (flag : Char) (flags : List Char) (before : Bool) :
    flagAfter flag flags (flagAfter flag flags before) = flagAfter flag flags before := by
  unfold flagAfter
  split
  · rfl
  · split <;> rfl

def switch (m : Modes) (flags : List Char) : Modes :=
  ⟨flagAfter 'i' flags m.folded, !flagAfter 'u' flags (!m.bytes), flagAfter 'x' flags m.spaced⟩

theorem switch_switch (m : Modes) (flags : List Char) :
    (m.switch flags).switch flags = m.switch flags := by
  simp only [switch, Bool.not_not, flagAfter_flagAfter]

/-- A character may stand outside a class; the second argument says that it is given as a byte. -/
def allows (m : Modes) (c : Char) (asByte : Bool) : Bool :=
  if m.bytes then !asByte || c.toNat < 0x80 else !m.folded

def allowsInClass (m : Modes) (c : Char) : Bool := if m.bytes then c.toNat < 0x80 else !m.folded

def allowsNamed (m : Modes) (negated : Bool) : Bool := if m.bytes then !negated else !m.folded

def allowsShorthand (m : Modes) (negated : Bool) : Bool := m.bytes && !negated

end Modes

end TypeShape.Text.Pattern
