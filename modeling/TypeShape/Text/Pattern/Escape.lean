import TypeShape.Text.Alphanumeric
import TypeShape.Text.Pattern.Modes

/-!
# Escapes of a pattern

What a backslash introduces: a character, a class that a letter stands for, a bound of a word, or an
end of the text. Main statements: `escape?_behind`, an escape has a character at least and leaves the
text behind it as it stands; `toNat_lt_of_escape?`, what is given as a byte is one.
-/

namespace TypeShape.Text.Pattern

/-- What a backslash introduces. -/
inductive Escape where
  /-- A character; it may be given as a byte. -/
  | literal (c : Char) (asByte : Bool)
  /-- A class: digits, blanks, or the characters of words. -/
  | shorthand (negated : Bool)
  /-- A place where a word starts or ends, or where none does. -/
  | wordBound
  /-- The start or the end of the text. -/
  | edge

def Escape.isAllowed (m : Modes) : Escape → Bool
  | .literal c asByte => m.allows c asByte
  | .shorthand negated => m.allowsShorthand negated
  | .wordBound => m.bytes
  | .edge => true

/-- The digit that a character is in base sixteen. -/
def hexDigit? (c : Char) : Option Nat :=
  if '0' ≤ c ∧ c ≤ '9' then some (c.toNat - '0'.toNat)
  else if 'a' ≤ c ∧ c ≤ 'f' then some (c.toNat - 'a'.toNat + 10)
  else if 'A' ≤ c ∧ c ≤ 'F' then some (c.toNat - 'A'.toNat + 10)
  else none

theorem hexDigit?_lt {c : Char} {d : Nat} (h : hexDigit? c = some d) : d < 16 := by
  have hrange : ∀ {low high : Char}, low ≤ c ∧ c ≤ high →
      c.toNat - low.toNat ≤ high.toNat - low.toNat :=
    fun hc => Nat.sub_le_sub_right (UInt32.le_iff_toNat_le.1 (Char.le_def.1 hc.2)) _
  unfold hexDigit? at h
  split at h
  next hc =>
    cases h
    exact Nat.lt_of_le_of_lt (hrange hc) (by decide)
  · split at h
    next hc =>
      cases h
      exact Nat.add_lt_of_lt_sub (Nat.lt_of_le_of_lt (hrange hc) (by decide))
    · split at h
      next hc =>
        cases h
        exact Nat.add_lt_of_lt_sub (Nat.lt_of_le_of_lt (hrange hc) (by decide))
      · cases h

/-- Reads a count of hexadecimal digits after a number that the digits before them denote. -/
def hexNumber? (m : Modes) (number : Nat) : Nat → List Char → Option (Nat × List Char)
  | 0, s => some (number, s)
  | count + 1, s =>
    match m.skip s with
    | [] => none
    | c :: rest =>
      match hexDigit? c with
      | some d => hexNumber? m (16 * number + d) count rest
      | none => none

variable {m : Modes} {s rest : List Char}

theorem exists_of_hexNumber?_succ {number count n : Nat}
    (h : hexNumber? m number (count + 1) s = some (n, rest)) :
    ∃ d behind, d < 16 ∧ Behind behind s ∧
      hexNumber? m (16 * number + d) count behind = some (n, rest) := by
  rw [hexNumber?] at h
  split at h
  · cases h
  next c behind hskip =>
    have hbehind : Behind behind (m.skip s) := hskip ▸ .of_suffix c (List.suffix_refl behind)
    split at h
    next d hd => exact ⟨d, behind, hexDigit?_lt hd, hbehind.of_skip, h⟩
    · cases h

theorem hexNumber?_suffix {number count n : Nat}
    (h : hexNumber? m number count s = some (n, rest)) : rest <:+ s := by
  induction count generalizing number s with
  | zero =>
    cases h
    exact List.suffix_refl _
  | succ count ih =>
    obtain ⟨_, _, -, hbehind, hrest⟩ := exists_of_hexNumber?_succ h
    exact (ih hrest).trans hbehind.suffix

/-- Two digits denote a byte. -/
theorem hexNumber?_two_lt {n : Nat} (h : hexNumber? m 0 2 s = some (n, rest)) : n < 0x100 := by
  obtain ⟨d, _, hd, -, hsecond⟩ := exists_of_hexNumber?_succ h
  obtain ⟨e, _, he, -, hnone⟩ := exists_of_hexNumber?_succ hsecond
  cases hnone
  omega

def numbered? (m : Modes) (count : Nat) (s : List Char) : Option (Escape × List Char) :=
  match hexNumber? m 0 count s with
  | some (n, rest) =>
    if n.isValidChar then some (.literal (Char.ofNat n) (count == 2), rest) else none
  | none => none

theorem numbered?_suffix {count : Nat} {e : Escape} (h : numbered? m count s = some (e, rest)) :
    rest <:+ s := by
  unfold numbered? at h
  split at h
  next n behind hn =>
    split at h
    · cases h
      exact hexNumber?_suffix hn
    · cases h
  · cases h

theorem toNat_lt_of_numbered? {count : Nat} {c : Char}
    (h : numbered? m count s = some (.literal c true, rest)) : c.toNat < 0x100 := by
  unfold numbered? at h
  split at h
  next n behind hn =>
    split at h
    next hvalid =>
      simp only [Option.some.injEq, Prod.mk.injEq, Escape.literal.injEq, beq_iff_eq] at h
      obtain ⟨⟨rfl, rfl⟩, -⟩ := h
      have hnumber : (Char.ofNat n).toNat = n := by
        rw [Char.ofNat, dif_pos hvalid]
        rfl
      rw [hnumber]
      exact hexNumber?_two_lt hn
    · cases h
  · cases h

/-- Reads what follows a backslash. Marks stand for themselves; the other letters, the digits and
what lies beyond ASCII mean nothing. -/
def escape? (m : Modes) : List Char → Option (Escape × List Char)
  | [] => none
  | c :: rest =>
    match c with
    | 'x' => numbered? m 2 rest
    | 'u' => numbered? m 4 rest
    | 'U' => numbered? m 8 rest
    | 'd' => some (.shorthand false, rest)
    | 's' => some (.shorthand false, rest)
    | 'w' => some (.shorthand false, rest)
    | 'D' => some (.shorthand true, rest)
    | 'S' => some (.shorthand true, rest)
    | 'W' => some (.shorthand true, rest)
    | 'a' => some (.literal '\x07' false, rest)
    | 'f' => some (.literal '\x0c' false, rest)
    | 't' => some (.literal '\t' false, rest)
    | 'n' => some (.literal '\n' false, rest)
    | 'r' => some (.literal '\r' false, rest)
    | 'v' => some (.literal '\x0b' false, rest)
    | 'A' => some (.edge, rest)
    | 'z' => some (.edge, rest)
    | 'b' => some (.wordBound, rest)
    | 'B' => some (.wordBound, rest)
    | '<' => some (.wordBound, rest)
    | '>' => some (.wordBound, rest)
    | _ =>
      if c.toNat < 0x80 && !isAlphanumeric c then some (.literal c false, rest) else none

theorem escape?_behind {e : Escape} (h : escape? m s = some (e, rest)) : Behind rest s := by
  cases s with
  | nil => cases h
  | cons c cs =>
    refine .of_suffix c ?_
    unfold escape? at h
    dsimp only at h
    split at h
    case h_1 | h_2 | h_3 => exact numbered?_suffix h
    case h_22 =>
      split at h <;> cases h
      exact List.suffix_refl _
    all_goals
      cases h
      exact List.suffix_refl _

theorem toNat_lt_of_escape? {c : Char} (h : escape? m s = some (.literal c true, rest)) :
    c.toNat < 0x100 := by
  cases s with
  | nil => cases h
  | cons d cs =>
    unfold escape? at h
    dsimp only at h
    split at h
    case h_1 | h_2 | h_3 => exact toNat_lt_of_numbered? h
    case h_22 => split at h <;> cases h
    all_goals cases h

end TypeShape.Text.Pattern
