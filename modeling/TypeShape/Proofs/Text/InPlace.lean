import TypeShape.Text.Offset
import TypeShape.Proofs.Text.Shortening

/-!
# Shortening in place

The segment that is being read need not be kept apart: it can stand at the end of one buffer, with the
offset where it starts. A double colon then cuts the buffer off at that offset. By that time the buffer
has grown, and it may have been cut before, over characters of one to four bytes; an offset that is no
place in it would end the run.

* `Buffer` — a shortening in one buffer; `Buffer.turn`: one look at the rest, refused where an offset is
  no place;
* `Scan.inPlace` — a state of the machine in one buffer; `Scan.turn_inPlace`: the two keep step;
* `Scan.Reads s` — what holds of every state in which the machine is while it reads `s`;
* `Buffer.InBounds s` — the offsets of a buffer are places, in what is written and in `s`.

Main statement: `shortening_stays_in_bounds`.
-/

namespace TypeShape

namespace Text

/-! ### One buffer -/

/-- The text up to an offset. An offset behind the end leaves the text as it is. -/
def truncate? (s : List Char) (stop : Nat) : Option (List Char) :=
  if stop ≤ byteLength s then (splitAt? s stop).map (·.1) else some s

/-- A shortening in one buffer. -/
structure Buffer where
  /-- The text written so far. -/
  out : List Char
  /-- The offset where the identifier characters at the end of `out` start. -/
  segmentStart : Nat
  /-- What is still to be read. -/
  rest : List Char
  deriving DecidableEq

/-- What a look at the rest comes to. -/
inductive Turn where
  /-- Everything is read. -/
  | finished
  /-- The run goes on. -/
  | next (b : Buffer)
  /-- An offset is no place. -/
  | refused
  deriving DecidableEq

namespace Buffer

/-- Nothing is read yet. -/
def start (s : List Char) : Buffer := ⟨[], 0, s⟩

/-- A double colon cuts the buffer off where the segment starts, any other character is written, and one
that is no identifier character ends the segment. -/
def turn : Buffer → Turn
  | ⟨_, _, []⟩ => .finished
  | ⟨out, segmentStart, ':' :: ':' :: rest⟩ =>
    match truncate? out segmentStart with
    | some kept => .next ⟨kept, segmentStart, rest⟩
    | none => .refused
  | ⟨out, segmentStart, c :: rest⟩ =>
    let grown := out ++ [c]
    match from? (c :: rest) c.utf8Size with
    | some rest =>
      .next ⟨grown, if isIdentifierChar c then segmentStart else byteLength grown, rest⟩
    | none => .refused

/-- The buffers that a run over `s` comes to. -/
inductive Reached (s : List Char) : Buffer → Prop where
  | start : Reached s (start s)
  | next {b b' : Buffer} (hb : Reached s b) (hturn : b.turn = .next b') : Reached s b'

/-- **The offsets of a buffer are places**, in what is written and in the text `s` that is read. -/
structure InBounds (s : List Char) (b : Buffer) : Prop where
  /-- The segment starts in what is written or at its end. -/
  segmentStart_le : b.segmentStart ≤ byteLength b.out
  /-- It starts at a character boundary. -/
  segmentStart_isValid : (String.Pos.Raw.mk b.segmentStart).IsValid (String.ofList b.out)
  /-- It is the whole run of identifier characters at the end of what is written. -/
  segment : ∃ settled segment, splitAt? b.out b.segmentStart = some (settled, segment) ∧
    (∀ c ∈ segment, isIdentifierChar c = true) ∧
    ∀ c ∈ settled.getLast?, isIdentifierChar c = false
  /-- The rest starts at a character boundary of the text. -/
  restStart_isValid :
    (String.Pos.Raw.mk (byteLength s - byteLength b.rest)).IsValid (String.ofList s)
  /-- It is all that the text holds from there on. -/
  rest_eq : from? s (byteLength s - byteLength b.rest) = some b.rest
  /-- What is written takes no more bytes than what is read. -/
  fits : byteLength b.out + byteLength b.rest ≤ byteLength s

end Buffer

/-! ### Places -/

theorem truncate?_append (s t : List Char) : truncate? (s ++ t) (byteLength s) = some s := by
  have hle : byteLength s ≤ byteLength (s ++ t) := by rw [byteLength_append]; omega
  rw [truncate?, if_pos hle, splitAt?_byteLength]
  rfl

/-- A text refuses to be cut off inside a character. -/
theorem truncate?_eq_none_iff {s : List Char} {stop : Nat} :
    truncate? s stop = none ↔
      stop ≤ byteLength s ∧ ¬ (String.Pos.Raw.mk stop).IsValid (String.ofList s) := by
  rw [truncate?, ← isSome_splitAt?_iff]
  split <;> simp [*]

theorem from?_cons (c : Char) (s : List Char) : from? (c :: s) c.utf8Size = some s :=
  from?_append [c] s

namespace Buffer

variable {out kept rest : List Char} {segmentStart : Nat} {c : Char}

theorem turn_separator (h : truncate? out segmentStart = some kept) :
    turn ⟨out, segmentStart, ':' :: ':' :: rest⟩ = .next ⟨kept, segmentStart, rest⟩ := by
  rw [turn, h]

/-- A single character is always cut off the rest, however many bytes it has. -/
theorem turn_cons (hsep : ¬ (c = ':' ∧ rest.head? = some ':')) :
    turn ⟨out, segmentStart, c :: rest⟩ =
      .next ⟨out ++ [c], if isIdentifierChar c then segmentStart else byteLength (out ++ [c]),
        rest⟩ := by
  unfold turn
  split
  next h => cases h
  next h =>
    cases h
    exact absurd ⟨rfl, rfl⟩ hsep
  next h =>
    cases h
    simp only [from?_cons]

/-- **A turn is refused** at a double colon alone, and there exactly where the offset of the segment is
inside a character. -/
theorem turn_eq_refused_iff {b : Buffer} :
    b.turn = .refused ↔
      [':', ':'] <+: b.rest ∧ b.segmentStart ≤ byteLength b.out ∧
        ¬ (String.Pos.Raw.mk b.segmentStart).IsValid (String.ofList b.out) := by
  obtain ⟨out, segmentStart, s⟩ := b
  rw [← truncate?_eq_none_iff]
  cases s using scan_cases with
  | nil => simp [turn]
  | separator s =>
    rw [turn]
    cases truncate? out segmentStart <;> simp
  | identifier c s hc =>
    have hcolon := ne_colon_of_isIdentifierChar hc
    rw [turn_cons fun hsep => hcolon hsep.1]
    simp [hcolon.symm]
  | mark c s hc hsep =>
    have hno : ¬ [':', ':'] <+: c :: s := by
      rintro ⟨t, ht⟩
      cases ht
      exact hsep ⟨rfl, rfl⟩
    rw [turn_cons hsep]
    simp [hno]

/-- The letter takes two bytes. -/
example : turn ⟨"ß".toList, 1, "::Ж".toList⟩ = .refused := by decide +kernel

end Buffer

/-! ### The machine in one buffer -/

namespace Scan

variable {s : List Char} {st next : Scan}

/-- The state with its segment at the end of what is settled. -/
def inPlace (st : Scan) : Buffer := ⟨st.written, byteLength st.settled.reverse, st.rest⟩

theorem inPlace_eq (settled segment s : List Char) :
    inPlace ⟨settled, segment, s⟩ =
      ⟨settled.reverse ++ segment.reverse, byteLength settled.reverse, s⟩ := by
  rw [inPlace, written, List.reverse_append]

/-- **A buffer does what the machine does**, turn by turn, and no offset is refused. -/
theorem turn_inPlace (st : Scan) :
    st.inPlace.turn = st.step.elim .finished fun next => .next next.inPlace := by
  obtain ⟨settled, segment, s⟩ := st
  rw [inPlace_eq]
  cases s using scan_cases with
  | nil => rfl
  | separator s =>
    rw [step_separator, Option.elim_some, inPlace_eq, Buffer.turn_separator (truncate?_append _ _),
      List.reverse_nil, List.append_nil]
  | identifier c s hc =>
    have hcolon := ne_colon_of_isIdentifierChar hc
    rw [step_identifier hc, Option.elim_some, inPlace_eq, Buffer.turn_cons fun hsep => hcolon hsep.1,
      if_pos hc, List.reverse_cons, List.append_assoc]
  | mark c s hc hsep =>
    have hsettled : (c :: (segment ++ settled)).reverse =
        settled.reverse ++ segment.reverse ++ [c] := by simp
    rw [step_mark hc hsep, Option.elim_some, inPlace_eq, Buffer.turn_cons hsep,
      if_neg (by simp [hc]), hsettled, List.reverse_nil, List.append_nil]

/-- What a turn makes of a state of the machine is the next one. -/
theorem inPlace_after_succ (n : Nat) (st : Scan) :
    (after (n + 1) st).inPlace =
      match (after n st).inPlace.turn with
      | .next b => b
      | _ => (after n st).inPlace := by
  rw [after_succ, turn_inPlace]
  cases (after n st).step <;> rfl

theorem byteLength_rest_of_step (h : st.step = some next) :
    byteLength next.rest < byteLength st.rest := by
  rcases step_cases h with ⟨s, hrest, rfl⟩ | ⟨c, s, hrest, -, rfl⟩ | ⟨c, s, hrest, -, -, rfl⟩
  · have hcolon := Char.utf8Size_pos ':'
    rw [hrest]
    simp only [byteLength]
    omega
  all_goals
    have hc := c.utf8Size_pos
    rw [hrest]
    simp only [byteLength]
    omega

/-! ### What holds of the machine -/

/-- **The machine is reading** the text `s`. -/
structure Reads (s : List Char) (st : Scan) : Prop where
  /-- There is no mark in the segment. -/
  segment : ∀ c ∈ st.segment, isIdentifierChar c = true
  /-- What is settled ends with a mark. -/
  settled : ∀ c ∈ st.settled.head?, isIdentifierChar c = false
  /-- What is written is left of what is read. -/
  read : ∃ front, s = front ++ st.rest ∧ st.written.Sublist front

theorem Reads.start (s : List Char) : Reads s (start s) where
  segment := by simp [Scan.start]
  settled := by simp [Scan.start]
  read := ⟨[], rfl, List.Sublist.refl _⟩

theorem Reads.step (h : Reads s st) (hstep : st.step = some next) : Reads s next := by
  obtain ⟨settled, segment, rest⟩ := st
  obtain ⟨front, hs, hsub⟩ := h.read
  rw [written, List.reverse_append] at hsub
  have hsettled := (List.sublist_append_left settled.reverse segment.reverse).trans hsub
  have hread : ∀ u t, rest = u ++ t → s = front ++ u ++ t := by
    rintro u t rfl
    rw [List.append_assoc]
    exact hs
  -- what is read grows by what the step takes, and what is written stays a part of it
  rcases step_cases hstep with ⟨t, ht, rfl⟩ | ⟨c, t, ht, hc, rfl⟩ | ⟨c, t, ht, hc, -, rfl⟩
  · refine ⟨by simp, h.settled, front ++ [':', ':'], hread [':', ':'] t ht, ?_⟩
    simpa [written] using hsettled.trans (List.sublist_append_left front [':', ':'])
  · refine ⟨List.forall_mem_cons.2 ⟨hc, h.segment⟩, h.settled, front ++ [c], hread [c] t ht, ?_⟩
    simpa [written] using hsub.append_right [c]
  · refine ⟨by simp, by simpa using hc, front ++ [c], hread [c] t ht, ?_⟩
    simpa [written] using hsub.append_right [c]

theorem Reads.after (h : Reads s st) (n : Nat) : Reads s (after n st) := by
  induction n with
  | zero => exact h
  | succ n ih =>
    rw [after_succ]
    cases hstep : (Scan.after n st).step with
    | none => exact ih
    | some next => exact ih.step hstep

/-- The offsets of such a state are places. -/
theorem Reads.inBounds (h : Reads s st) : st.inPlace.InBounds s := by
  obtain ⟨settled, segment, rest⟩ := st
  obtain ⟨front, rfl, hsub⟩ : ∃ front, s = front ++ rest ∧ (written _).Sublist front := h.read
  have hout := splitAt?_byteLength settled.reverse segment.reverse
  have hread := splitAt?_byteLength front rest
  have hstart : byteLength (front ++ rest) - byteLength rest = byteLength front := by
    rw [byteLength_append, Nat.add_sub_cancel]
  have hfits := byteLength_le_of_sublist hsub
  rw [written, List.reverse_append] at hfits
  rw [inPlace_eq]
  constructor
  case segmentStart_le =>
    rw [byteLength_append]
    exact Nat.le_add_right ..
  case segmentStart_isValid => exact isSome_splitAt?_iff.1 (Option.isSome_of_eq_some hout)
  case segment =>
    refine ⟨settled.reverse, segment.reverse, hout, ?_, ?_⟩
    · intro c hc
      exact h.segment c (List.mem_reverse.1 hc)
    · rw [List.getLast?_reverse]
      exact h.settled
  case restStart_isValid =>
    rw [hstart]
    exact isSome_splitAt?_iff.1 (Option.isSome_of_eq_some hread)
  case rest_eq =>
    rw [hstart]
    exact from?_append front rest
  case fits =>
    rw [byteLength_append front rest]
    exact Nat.add_le_add_right hfits _

end Scan

/-! ### Runs over a text -/

namespace Buffer

variable {s : List Char} {b : Buffer}

theorem reached_after (s : List Char) (n : Nat) :
    Reached s ((Scan.start s).after n).inPlace := by
  induction n with
  | zero => exact .start
  | succ n ih =>
    rw [Scan.inPlace_after_succ]
    split
    next b hturn => exact ih.next hturn
    next => exact ih

/-- The run goes through the states of the machine. -/
theorem reached_iff : Reached s b ↔ ∃ n, b = ((Scan.start s).after n).inPlace := by
  constructor
  · intro h
    induction h with
    | start => exact ⟨0, rfl⟩
    | next _ hturn ih =>
      obtain ⟨n, rfl⟩ := ih
      exact ⟨n + 1, by rw [Scan.inPlace_after_succ, hturn]⟩
  · rintro ⟨n, rfl⟩
    exact reached_after s n

/-- A run does not stop before everything is read, and every turn leaves less to read. -/
theorem turn_of_reached (h : Reached s b) :
    (b.turn = .finished ∧ b.rest = []) ∨
    ∃ b', b.turn = .next b' ∧ byteLength b'.rest < byteLength b.rest := by
  obtain ⟨n, rfl⟩ := reached_iff.1 h
  rw [Scan.turn_inPlace]
  cases hstep : ((Scan.start s).after n).step with
  | none => exact Or.inl ⟨rfl, Scan.step_eq_none_iff.1 hstep⟩
  | some next => exact Or.inr ⟨next.inPlace, rfl, Scan.byteLength_rest_of_step hstep⟩

end Buffer

end Text

/-- **A shortening stays in bounds.** Run over any text in one buffer, it goes through the states of the
machine. In each of them the segment starts at a character boundary of what is written, with nothing
but identifier characters behind it, and the rest is what the text holds from a character boundary
on. No turn is refused and every turn leaves less to read, until the shortened text is written. -/
theorem shortening_stays_in_bounds (s : List Char) :
    (∀ b, Text.Buffer.Reached s b ↔ ∃ n, b = ((Text.Scan.start s).after n).inPlace) ∧
    (∀ b, Text.Buffer.Reached s b →
      b.InBounds s ∧
      ((b.turn = .finished ∧ b.rest = []) ∨
        ∃ b', b.turn = .next b' ∧ Text.byteLength b'.rest < Text.byteLength b.rest)) ∧
    ∃ b, Text.Buffer.Reached s b ∧ b.turn = .finished ∧ b.out = Text.shorten s := by
  refine ⟨fun b => Text.Buffer.reached_iff, ?_, ?_⟩
  · intro b hb
    refine ⟨?_, Text.Buffer.turn_of_reached hb⟩
    obtain ⟨n, rfl⟩ := Text.Buffer.reached_iff.1 hb
    exact ((Text.Scan.Reads.start s).after n).inBounds
  · have hend : ((Text.Scan.start s).after s.length).rest = [] := Text.Scan.rest_after (Nat.le_refl _)
    refine ⟨_, Text.Buffer.reached_after s s.length, ?_, rfl⟩
    rw [Text.Scan.turn_inPlace, Text.Scan.step_eq_none_iff.2 hend]
    rfl

/-- Behind a segment of three-byte characters the buffer is cut off at an offset that was remembered
before they were written. -/
theorem shortening_stays_in_bounds_of_mixed_widths :
    let s := "größer::(日本::語, &Ж)".toList
    let b : Text.Buffer := ⟨"(日本".toList, 1, "::語, &Ж)".toList⟩
    let b' : Text.Buffer := ⟨"(".toList, 1, "語, &Ж)".toList⟩
    Text.Buffer.Reached s b ∧ b.InBounds s ∧ b.turn = .next b' ∧
      Text.byteLength b'.rest < Text.byteLength b.rest := by
  intro s b b'
  obtain ⟨hreached, hbounds, -⟩ := shortening_stays_in_bounds s
  have hb : Text.Buffer.Reached s b := (hreached b).2 ⟨10, by decide +kernel⟩
  have hturn : b.turn = .next b' := by decide +kernel
  obtain ⟨hin, hfinished | ⟨b'', hb'', hless⟩⟩ := hbounds b hb
  · exact absurd (hturn.symm.trans hfinished.1) (by simp)
  · obtain rfl : b' = b'' := Text.Turn.next.inj (hturn.symm.trans hb'')
    exact ⟨hb, hin, hturn, hless⟩

end TypeShape
