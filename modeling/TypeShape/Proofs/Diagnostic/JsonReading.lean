import TypeShape.Diagnostic.Json
import TypeShape.Proofs.Text.Run

/-!
# JSON texts are read in one way

The compact form of a value and the text behind it are known from the two together, as long as that
text does not go on with a digit: only a number has no mark at its end.

* `unescape?`: reads one character of a string back; `stringOnto_inj`, a string ends at its own
  quotation mark, whatever characters it holds;
* `kindOf_renderOnto`: the first character of a value tells its kind;
* `Json.ReadBack j` — `j` and the text behind it are known from the two together; one lemma for each
  kind of value.

Main statement: `Json.render_inj`.
-/

namespace TypeShape

namespace Json

/-! ### Induction on values -/

/-- Induction on a value, with a hypothesis for every item and every field. -/
@[elab_as_elim]
theorem induct {motive : Json → Prop} (null : motive .null) (number : ∀ n, motive (.number n))
    (string : ∀ s, motive (.string s))
    (array : ∀ js, (∀ j ∈ js, motive j) → motive (.array js))
    (object : ∀ fs, (∀ f ∈ fs, motive f.2) → motive (.object fs)) : ∀ j, motive j
  | .null => null
  | .number n => number n
  | .string s => string s
  | .array js => array js fun j _ => induct null number string array object j
  | .object fs => object fs fun f _ => induct null number string array object f.2
decreasing_by
  · have hitem := List.sizeOf_lt_of_mem ‹_›
    rw [Json.array.sizeOf_spec]
    omega
  · have hfield := List.sizeOf_lt_of_mem ‹_›
    obtain ⟨k, j⟩ := f
    simp only [Prod.mk.sizeOf_spec, Json.object.sizeOf_spec] at hfield ⊢
    omega

/-! ### Strings -/

/-- The number a hexadecimal digit stands for. -/
def hexValue (c : Char) : Nat := if c.isDigit then c.toNat - 0x30 else c.toNat - 0x57

/-- The character at the front of the rest of a string, and what follows it; none at its end. -/
def unescape? : List Char → Option (Char × List Char)
  | [] => none
  | '"' :: _ => none
  | '\\' :: 'b' :: rest => some ('\x08', rest)
  | '\\' :: 'f' :: rest => some ('\x0c', rest)
  | '\\' :: 'n' :: rest => some ('\n', rest)
  | '\\' :: 'r' :: rest => some ('\r', rest)
  | '\\' :: 't' :: rest => some ('\t', rest)
  | '\\' :: 'u' :: '0' :: '0' :: high :: low :: rest =>
    some (Char.ofNat (16 * hexValue high + hexValue low), rest)
  | '\\' :: c :: rest => some (c, rest)
  | c :: rest => some (c, rest)

theorem hexValue_digitChar {n : Nat} (h : n < 16) : hexValue (Nat.digitChar n) = n := by
  have hall : ∀ m < 16, hexValue (Nat.digitChar m) = m := by decide
  exact hall n h

theorem unescape?_number {c : Char} (h : c.toNat < 0x20) (rest : List Char) :
    unescape? ('\\' :: 'u' :: '0' :: '0' :: Nat.digitChar (c.toNat / 16) ::
      Nat.digitChar (c.toNat % 16) :: rest) = some (c, rest) := by
  have hnumber : 16 * (c.toNat / 16) + c.toNat % 16 = c.toNat := Nat.div_add_mod ..
  rw [unescape?, hexValue_digitChar (by omega), hexValue_digitChar (by omega), hnumber,
    Char.ofNat_toNat]

theorem unescape?_plain {c : Char} (hquote : c ≠ '"') (hslash : c ≠ '\\') (rest : List Char) :
    unescape? (c :: rest) = some (c, rest) := by
  unfold unescape?
  split <;> simp_all

theorem unescape?_escape (c : Char) (rest : List Char) :
    unescape? (escape c ++ rest) = some (c, rest) := by
  by_cases hquote : c = '"'
  · subst hquote; rfl
  by_cases hslash : c = '\\'
  · subst hslash; rfl
  by_cases hbackspace : c = '\x08'
  · subst hbackspace; rfl
  by_cases hfeed : c = '\x0c'
  · subst hfeed; rfl
  by_cases hline : c = '\n'
  · subst hline; rfl
  by_cases hreturn : c = '\r'
  · subst hreturn; rfl
  by_cases htab : c = '\t'
  · subst htab; rfl
  by_cases hcontrol : c.toNat < 0x20
  · simpa [escape, hquote, hslash, hbackspace, hfeed, hline, hreturn, htab, hcontrol] using
      unescape?_number hcontrol rest
  · simpa [escape, hquote, hslash, hbackspace, hfeed, hline, hreturn, htab, hcontrol] using
      unescape?_plain hquote hslash rest

theorem flatMap_escape_inj {s s' rest rest' : List Char}
    (h : s.flatMap escape ++ '"' :: rest = s'.flatMap escape ++ '"' :: rest') :
    s = s' ∧ rest = rest' := by
  induction s generalizing s' with
  | nil =>
    cases s' with
    | nil => exact ⟨rfl, (List.cons.inj h).2⟩
    | cons c s' =>
      -- the left text begins with the mark that ends a string, and no character is written so
      have hread := congrArg unescape? h
      rw [List.flatMap_cons, List.append_assoc, unescape?_escape] at hread
      cases hread
  | cons c s ih =>
    cases s' with
    | nil =>
      have hread := congrArg unescape? h
      rw [List.flatMap_cons, List.append_assoc, unescape?_escape] at hread
      cases hread
    | cons c' s' =>
      have hread := congrArg unescape? h
      rw [List.flatMap_cons, List.flatMap_cons, List.append_assoc, List.append_assoc,
        unescape?_escape, unescape?_escape] at hread
      obtain ⟨rfl, htail⟩ := Prod.mk.inj (Option.some.inj hread)
      obtain ⟨rfl, hrest⟩ := ih htail
      exact ⟨rfl, hrest⟩

theorem stringOnto_inj {s s' : String} {rest rest' : List Char}
    (h : stringOnto s rest = stringOnto s' rest') : s = s' ∧ rest = rest' := by
  obtain ⟨hs, hrest⟩ := flatMap_escape_inj (List.cons.inj h).2
  exact ⟨String.toList_inj.1 hs, hrest⟩

/-! ### How a value opens -/

/-- The kinds of JSON values. -/
inductive Kind where
  | null
  | number
  | string
  | array
  | object

/-- The kind of a value. -/
def kind : Json → Kind
  | .null => .null
  | .number _ => .number
  | .string _ => .string
  | .array _ => .array
  | .object _ => .object

/-- The kind of value that a text opens with. -/
def kindOf : List Char → Kind
  | 'n' :: _ => .null
  | '"' :: _ => .string
  | '[' :: _ => .array
  | '\x7b' :: _ => .object
  | _ => .number

theorem kindOf_of_isDigit {c : Char} (hc : c.isDigit = true) (s : List Char) :
    kindOf (c :: s) = .number := by
  unfold kindOf
  split
  next h => cases h; exact absurd hc (by decide)
  next h => cases h; exact absurd hc (by decide)
  next h => cases h; exact absurd hc (by decide)
  next h => cases h; exact absurd hc (by decide)
  next => rfl

theorem kindOf_renderOnto (j : Json) (rest : List Char) : kindOf (renderOnto j rest) = j.kind := by
  cases j with
  | null => rfl
  | number n =>
    obtain ⟨c, s, hn, hc⟩ := Text.exists_toDigits_eq_cons n
    rw [renderOnto, hn]
    exact kindOf_of_isDigit hc _
  | string s => rfl
  | array js => cases js <;> rfl
  | object fs =>
    cases fs with
    | nil => rfl
    | cons f fs => obtain ⟨k, j⟩ := f; rfl

/-- A value does not open with the bracket that closes an array. -/
theorem renderOnto_ne_cons_bracket (j : Json) (rest rest' : List Char) :
    renderOnto j rest ≠ ']' :: rest' := by
  intro h
  -- only a number opens with none of the marks, and it opens with a digit
  have hkind : j.kind = .number := by
    rw [← kindOf_renderOnto j rest, h]
    rfl
  cases j with
  | number n =>
    obtain ⟨c, s, hn, hc⟩ := Text.exists_toDigits_eq_cons n
    rw [renderOnto, hn] at h
    obtain rfl : c = ']' := (List.cons.inj h).1
    exact absurd hc (by decide)
  | _ => cases hkind

/-! ### Reading a text in one way -/

/-- What may stand behind a value: a number goes on as long as there are digits. -/
def Stops (rest : List Char) : Prop := ∀ c ∈ rest.head?, c.isDigit = false

theorem stops_nil : Stops [] := by simp [Stops]

theorem stops_itemsOnto (js : List Json) (rest : List Char) : Stops (itemsOnto js (']' :: rest)) := by
  cases js <;> simp [Stops, itemsOnto]

theorem stops_fieldsOnto (fs : List (String × Json)) (rest : List Char) :
    Stops (fieldsOnto fs ('\x7d' :: rest)) := by
  cases fs <;> simp [Stops, fieldsOnto]

/-- A value and the text behind it are known from the two together. -/
def ReadBack (j : Json) : Prop :=
  ∀ j' rest rest', Stops rest → Stops rest' → renderOnto j rest = renderOnto j' rest' →
    j = j' ∧ rest = rest'

theorem itemsOnto_inj {js js' : List Json} (hjs : ∀ j ∈ js, ReadBack j) {rest rest' : List Char}
    (h : itemsOnto js (']' :: rest) = itemsOnto js' (']' :: rest')) : js = js' ∧ rest = rest' := by
  induction js generalizing js' with
  | nil =>
    cases js' with
    | nil => exact ⟨rfl, (List.cons.inj h).2⟩
    | cons j' js' => simp [itemsOnto] at h
  | cons j js ih =>
    cases js' with
    | nil => simp [itemsOnto] at h
    | cons j' js' =>
      obtain ⟨rfl, hitems⟩ := hjs j (List.mem_cons_self ..) j' _ _ (stops_itemsOnto js rest)
        (stops_itemsOnto js' rest') (List.cons.inj h).2
      obtain ⟨rfl, hrest⟩ := ih (fun j hj => hjs j (List.mem_cons_of_mem _ hj)) hitems
      exact ⟨rfl, hrest⟩

/-- A field and what follows it, in front of a text. -/
theorem field_inj {k k' : String} {j j' : Json} (hj : ReadBack j) {rest rest' : List Char}
    (hrest : Stops rest) (hrest' : Stops rest')
    (h : stringOnto k (':' :: renderOnto j rest) = stringOnto k' (':' :: renderOnto j' rest')) :
    (k, j) = (k', j') ∧ rest = rest' := by
  obtain ⟨rfl, hvalue⟩ := stringOnto_inj h
  obtain ⟨rfl, hbehind⟩ := hj j' _ _ hrest hrest' (List.cons.inj hvalue).2
  exact ⟨rfl, hbehind⟩

theorem fieldsOnto_inj {fs fs' : List (String × Json)} (hfs : ∀ f ∈ fs, ReadBack f.2)
    {rest rest' : List Char}
    (h : fieldsOnto fs ('\x7d' :: rest) = fieldsOnto fs' ('\x7d' :: rest')) :
    fs = fs' ∧ rest = rest' := by
  induction fs generalizing fs' with
  | nil =>
    cases fs' with
    | nil => exact ⟨rfl, (List.cons.inj h).2⟩
    | cons f' fs' => simp [fieldsOnto] at h
  | cons f fs ih =>
    cases fs' with
    | nil => simp [fieldsOnto] at h
    | cons f' fs' =>
      obtain ⟨hf, hfields⟩ := field_inj (hfs f (List.mem_cons_self ..)) (stops_fieldsOnto fs rest)
        (stops_fieldsOnto fs' rest') (List.cons.inj h).2
      obtain ⟨rfl, hrest⟩ := ih (fun f hf => hfs f (List.mem_cons_of_mem _ hf)) hfields
      exact ⟨by rw [show f = f' from hf], hrest⟩

theorem readBack_of_kind {j : Json} (hsame : ∀ j' rest rest', j.kind = j'.kind → Stops rest →
      Stops rest' → renderOnto j rest = renderOnto j' rest' → j = j' ∧ rest = rest') :
    ReadBack j := by
  intro j' rest rest' hrest hrest' h
  have hkind : j.kind = j'.kind := by
    rw [← kindOf_renderOnto j rest, h, kindOf_renderOnto]
  exact hsame j' rest rest' hkind hrest hrest' h

theorem readBack_null : ReadBack .null := by
  refine readBack_of_kind fun j' rest rest' hkind _ _ h => ?_
  cases j' with
  | null => exact ⟨rfl, List.append_cancel_left h⟩
  | _ => cases hkind

theorem readBack_number (n : Nat) : ReadBack (.number n) := by
  refine readBack_of_kind fun j' rest rest' hkind hrest hrest' h => ?_
  cases j' with
  | number n' =>
    obtain ⟨rfl, hbehind⟩ := Text.toDigits_append_inj hrest hrest' h
    exact ⟨rfl, hbehind⟩
  | _ => cases hkind

theorem readBack_string (s : String) : ReadBack (.string s) := by
  refine readBack_of_kind fun j' rest rest' hkind _ _ h => ?_
  cases j' with
  | string s' =>
    obtain ⟨rfl, hbehind⟩ := stringOnto_inj h
    exact ⟨rfl, hbehind⟩
  | _ => cases hkind

theorem readBack_array {js : List Json} (ih : ∀ j ∈ js, ReadBack j) : ReadBack (.array js) := by
  refine readBack_of_kind fun j' rest rest' hkind hrest hrest' h => ?_
  cases j' with
  | array js' =>
    cases js with
    | nil =>
      cases js' with
      | nil => exact ⟨rfl, (List.cons.inj (List.cons.inj h).2).2⟩
      | cons j' js' => exact absurd (List.cons.inj h).2.symm (renderOnto_ne_cons_bracket _ _ _)
    | cons j js =>
      cases js' with
      | nil => exact absurd (List.cons.inj h).2 (renderOnto_ne_cons_bracket _ _ _)
      | cons j' js' =>
        obtain ⟨rfl, hitems⟩ := ih j (List.mem_cons_self ..) j' _ _ (stops_itemsOnto js rest)
          (stops_itemsOnto js' rest') (List.cons.inj h).2
        obtain ⟨rfl, hbehind⟩ := itemsOnto_inj (fun j hj => ih j (List.mem_cons_of_mem _ hj)) hitems
        exact ⟨rfl, hbehind⟩
  | _ => cases hkind

theorem readBack_object {fs : List (String × Json)} (ih : ∀ f ∈ fs, ReadBack f.2) :
    ReadBack (.object fs) := by
  refine readBack_of_kind fun j' rest rest' hkind hrest hrest' h => ?_
  cases j' with
  | object fs' =>
    cases fs with
    | nil =>
      cases fs' with
      | nil => exact ⟨rfl, (List.cons.inj (List.cons.inj h).2).2⟩
      | cons f' fs' => simp [renderOnto, stringOnto] at h
    | cons f fs =>
      cases fs' with
      | nil => simp [renderOnto, stringOnto] at h
      | cons f' fs' =>
        obtain ⟨hf, hfields⟩ := field_inj (ih f (List.mem_cons_self ..)) (stops_fieldsOnto fs rest)
          (stops_fieldsOnto fs' rest') (List.cons.inj h).2
        obtain ⟨rfl, hbehind⟩ := fieldsOnto_inj (fun f hf => ih f (List.mem_cons_of_mem _ hf)) hfields
        exact ⟨by rw [show f = f' from hf], hbehind⟩
  | _ => cases hkind

theorem readBack (j : Json) : ReadBack j := by
  induction j using induct with
  | null => exact readBack_null
  | number n => exact readBack_number n
  | string s => exact readBack_string s
  | array js ih => exact readBack_array ih
  | object fs ih => exact readBack_object ih

/-- Two values have the same compact form exactly when they are the same value. -/
theorem render_inj {j j' : Json} : j.render = j'.render ↔ j = j' := by
  rw [render, render, String.ofList_inj]
  constructor
  · intro h
    exact (readBack j j' [] [] stops_nil stops_nil h).1
  · rintro rfl
    rfl

end Json

end TypeShape
