/-!
# Offsets in a text

An offset counts the bytes that a text takes in UTF-8 up to a place in it. An offset inside a
character or beyond the end is no place. Main statements: `splitAt?_eq_some_iff`, a place cuts a
text in two; `splitAt?_byteLength`, the number of bytes of a text is the place behind it;
`isSome_splitAt?_iff`, the places of a text are the character boundaries of its bytes.
-/

namespace TypeShape.Text

/-- The number of bytes of a text. -/
def byteLength : List Char → Nat
  | [] => 0
  | c :: cs => c.utf8Size + byteLength cs

/-- The text before and the text after an offset. -/
def splitAt? : List Char → Nat → Option (List Char × List Char)
  | s, 0 => some ([], s)
  | [], _ + 1 => none
  | c :: cs, n + 1 =>
    if c.utf8Size ≤ n + 1 then
      (splitAt? cs (n + 1 - c.utf8Size)).map fun (before, after) => (c :: before, after)
    else none

def from? (s : List Char) (start : Nat) : Option (List Char) := (splitAt? s start).map (·.2)

def between? (s : List Char) (start stop : Nat) : Option (List Char) :=
  (from? s start).bind fun rest => (splitAt? rest (stop - start)).map (·.1)

theorem splitAt?_byteLength (s t : List Char) : splitAt? (s ++ t) (byteLength s) = some (s, t) := by
  induction s with
  | nil => cases t <;> rfl
  | cons c cs ih =>
    have hc := c.utf8Size_pos
    obtain ⟨n, hn⟩ : ∃ n, byteLength (c :: cs) = n + 1 :=
      ⟨byteLength (c :: cs) - 1, by simp only [byteLength]; omega⟩
    have hsub : n + 1 - c.utf8Size = byteLength cs := by simp only [byteLength] at hn; omega
    have hle : c.utf8Size ≤ n + 1 := by simp only [byteLength] at hn; omega
    rw [hn, List.cons_append, splitAt?, if_pos hle, hsub, ih]
    rfl

/-- A place cuts a text in two, and the part in front of it has as many bytes as the offset says. -/
theorem splitAt?_eq_some_iff {s before after : List Char} {n : Nat} :
    splitAt? s n = some (before, after) ↔ s = before ++ after ∧ byteLength before = n := by
  constructor
  · intro h
    induction s generalizing n before with
    | nil => cases n <;> simp_all [splitAt?, byteLength]
    | cons c cs ih =>
      cases n with
      | zero => simp_all [splitAt?, byteLength]
      | succ n =>
        simp only [splitAt?] at h
        split at h
        next hle =>
          obtain ⟨⟨before, after⟩, hs, he⟩ := Option.map_eq_some_iff.1 h
          cases he
          obtain ⟨hcut, hlength⟩ := ih hs
          refine ⟨by rw [hcut, List.cons_append], ?_⟩
          rw [byteLength, hlength]
          omega
        next => cases h
  · rintro ⟨rfl, rfl⟩
    exact splitAt?_byteLength before after

theorem from?_append (s t : List Char) : from? (s ++ t) (byteLength s) = some t := by
  rw [from?, splitAt?_byteLength]
  rfl

/-! ### The bytes of a text -/

theorem byteLength_append (s t : List Char) : byteLength (s ++ t) = byteLength s + byteLength t := by
  induction s with
  | nil => rw [List.nil_append, byteLength, Nat.zero_add]
  | cons c s ih => rw [List.cons_append, byteLength, byteLength, ih, Nat.add_assoc]

theorem byteLength_le_of_sublist {s t : List Char} (h : s.Sublist t) :
    byteLength s ≤ byteLength t := by
  induction h with
  | slnil => exact Nat.le_refl _
  | cons c _ ih => exact Nat.le_add_left_of_le ih
  | cons_cons c _ ih => exact Nat.add_le_add_left ih _

theorem byteLength_eq_utf8ByteSize (s : List Char) :
    byteLength s = (String.ofList s).utf8ByteSize := by
  induction s with
  | nil => rfl
  | cons c s ih =>
    rw [← List.singleton_append, String.ofList_append, String.utf8ByteSize_append, ← ih,
      ← String.singleton_eq_ofList, String.utf8ByteSize_singleton]
    rfl

/-- The places of a text are the character boundaries of its bytes. -/
theorem isSome_splitAt?_iff {s : List Char} {n : Nat} :
    (splitAt? s n).isSome ↔ (String.Pos.Raw.mk n).IsValid (String.ofList s) := by
  constructor
  · intro h
    obtain ⟨⟨before, after⟩, hs⟩ := Option.isSome_iff_exists.1 h
    obtain ⟨rfl, rfl⟩ := splitAt?_eq_some_iff.1 hs
    rw [String.Pos.Raw.isValid_iff_exists_append]
    refine ⟨String.ofList before, String.ofList after, String.ofList_append, ?_⟩
    rw [byteLength_eq_utf8ByteSize]
    rfl
  · intro h
    obtain ⟨i, hi⟩ := String.Pos.Raw.isValid_ofList.1 h
    rw [← byteLength_eq_utf8ByteSize] at hi
    have hs : splitAt? s n = some (s.take i, s.drop i) :=
      splitAt?_eq_some_iff.2 ⟨(List.take_append_drop i s).symm, hi.symm⟩
    rw [hs]
    rfl

end TypeShape.Text
