import TypeShape.Position
import TypeShape.Proofs.Text.Run

/-!
# Positions are read in one way

An index ends at its bracket, so the indices of a position are known from its written form, and a
position is written at the front of another one exactly when it stands above it: `text_prefix_iff`.
What is left of the other one is the way down: `render_eq_append_iff`. Hence `render_inj`. No position
has a blank in it: `space_notMem_text`.

Main statement: `written_prefix_iff_above`.
-/

namespace TypeShape

namespace Position

variable {p q : Position} {l m : List Nat}

theorem indexText_append_inj {i j : Nat} {rest rest' : List Char}
    (h : indexText i ++ rest = indexText j ++ rest') : i = j ∧ rest = rest' := by
  have hdigits : Nat.toDigits 10 i ++ ']' :: rest = Nat.toDigits 10 j ++ ']' :: rest' := by
    simpa [indexText] using h
  obtain ⟨rfl, hrest⟩ := Text.toDigits_append_inj (by simp) (by simp) hdigits
  exact ⟨rfl, (List.cons.inj hrest).2⟩

theorem flatMap_indexText_prefix_iff :
    l.flatMap indexText <+: m.flatMap indexText ↔ l <+: m := by
  induction l generalizing m with
  | nil => simp
  | cons i l ih =>
    cases m with
    | nil => simp [indexText]
    | cons j m =>
      rw [List.flatMap_cons, List.flatMap_cons, List.cons_prefix_cons, ← ih]
      constructor
      · rintro ⟨rest, h⟩
        rw [List.append_assoc] at h
        obtain ⟨rfl, hrest⟩ := indexText_append_inj h
        exact ⟨rfl, rest, hrest⟩
      · rintro ⟨rfl, h⟩
        exact List.prefix_append_right_inj _ |>.2 h

/-- One written form begins another exactly when the one position stands above the other. -/
theorem text_prefix_iff : p.text <+: q.text ↔ p.indices <+: q.indices := by
  rw [text, text, List.cons_prefix_cons, flatMap_indexText_prefix_iff]
  exact ⟨fun h => h.2, fun h => ⟨rfl, h⟩⟩

theorem text_inj : p.text = q.text ↔ p = q := by
  constructor
  · intro h
    have hpq : p.indices <+: q.indices := text_prefix_iff.1 (h ▸ List.prefix_refl _)
    have hqp : q.indices <+: p.indices := text_prefix_iff.1 (h ▸ List.prefix_refl _)
    have hindices : p.indices = q.indices := hpq.eq_of_length_le hqp.length_le
    cases p
    cases q
    exact congrArg mk hindices
  · rintro rfl
    rfl

theorem render_inj : p.render = q.render ↔ p = q := by
  rw [render, render, String.ofList_inj, text_inj]

theorem text_append (p q : Position) : (p ++ q).text = p.text ++ q.indices.flatMap indexText := by
  simp [text]

theorem exists_eq_append_of_prefix (h : p.indices <+: q.indices) : ∃ way : Position, q = p ++ way := by
  obtain ⟨indices, hindices⟩ := h
  refine ⟨⟨indices⟩, ?_⟩
  cases q
  exact congrArg mk hindices.symm

/-- What one written form leaves of another is, behind a root sign, the way down. -/
theorem render_eq_append_iff {rest : String} :
    q.render = p.render ++ rest ↔ ∃ way : Position, q = p ++ way ∧ way.render = "$" ++ rest := by
  rw [← String.toList_inj, String.toList_append, render, render, String.toList_ofList,
    String.toList_ofList]
  constructor
  · intro h
    obtain ⟨way, rfl⟩ := exists_eq_append_of_prefix (text_prefix_iff.1 ⟨rest.toList, h.symm⟩)
    rw [text_append] at h
    refine ⟨way, rfl, String.toList_inj.1 ?_⟩
    rw [render, String.toList_ofList, text, List.append_cancel_left h, String.toList_append]
    rfl
  · rintro ⟨way, rfl, hway⟩
    have htext : way.text = '$' :: rest.toList := by
      have hlist := congrArg String.toList hway
      rwa [render, String.toList_ofList, String.toList_append] at hlist
    rw [text_append, (List.cons.inj htext).2]

theorem space_notMem_text (p : Position) : ' ' ∉ p.text := by
  have hdigits : ∀ n, ' ' ∉ Nat.toDigits 10 n := Text.notMem_toDigits (by decide)
  simp [text, indexText, hdigits]

end Position

/-- **Written positions show what stands above what**, at any depth and whatever the indices are. One
written form begins another exactly when the one position stands above the other or is the same, and
what it leaves of the other is written as the way down from there. In particular two positions are
written in the same way only if they are the same. -/
theorem written_prefix_iff_above (p q : Position) :
    (p.render.toList <+: q.render.toList ↔ p.indices <+: q.indices) ∧
    (∀ rest : String, q.render = p.render ++ rest ↔
      ∃ way : Position, q = p ++ way ∧ way.render = "$" ++ rest) ∧
    (p.render = q.render ↔ p = q) := by
  refine ⟨?_, fun rest => Position.render_eq_append_iff, Position.render_inj⟩
  rw [Position.render, Position.render, String.toList_ofList, String.toList_ofList]
  exact Position.text_prefix_iff

/-- A longer numeral does not go on from a shorter one, and two levels are not one. -/
example :
    ¬ "$[1]".toList <+: "$[10]".toList ∧ ¬ "$[1][0]".toList <+: "$[10]".toList ∧
      (Position.mk [1, 0]).render = "$[1][0]" ∧ (Position.mk [10]).render = "$[10]" := by
  decide +kernel

end TypeShape
