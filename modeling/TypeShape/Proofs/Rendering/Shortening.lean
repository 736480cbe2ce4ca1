import TypeShape.Proofs.Rendering.UniqueReading
import TypeShape.Proofs.Text.ColonRuns

/-!
# The short rendering is the shortened full one

The marks of a rendering are neither identifier characters nor double colons, so a shortening reads
the heads in it one by one: to shorten the full rendering is to render with shortened heads.

* `Expr.EvenColonRuns e` — the colons in all names of `e` stand in runs of even length;
* `EvenColonRuns.shorten_renderOnto`: an expression and the text behind it are shortened apart.

Main statement: `short_rendering_is_shortened_full`.
-/

namespace TypeShape

namespace Expr

/-- **Colons come in runs of even length** in the full name of every symbol of the expression, and no
variable has a double colon in its name. -/
inductive EvenColonRuns : Expr Symbol → Prop
  | nominal {a : Symbol} (ha : Text.EvenColonRuns a.fullName.toList) : EvenColonRuns (.nominal a)
  | app {a : Symbol} {as : List (Expr Symbol)} (ha : Text.EvenColonRuns a.fullName.toList)
    (has : ∀ e ∈ as, EvenColonRuns e) : EvenColonRuns (.app a as)
  | array {c : Expr Symbol} (n : Option Nat) (hc : EvenColonRuns c) : EvenColonRuns (.array c n)
  | freeVar {x : String} (hx : ¬ [':', ':'] <:+: x.toList) : EvenColonRuns (.freeVar x)
  | anything : EvenColonRuns .anything
  | subtypeOf {b : Expr Symbol} (hb : EvenColonRuns b) : EvenColonRuns (.subtypeOf b)
  | supertypeOf {b : Expr Symbol} (hb : EvenColonRuns b) : EvenColonRuns (.supertypeOf b)

/-! ### The marks of a rendering -/

theorem shorten_symbol_append {a : Symbol} (ha : Text.EvenColonRuns a.fullName.toList)
    {rest : List Char} (hrest : ∀ c ∈ rest.head?, Text.isPathChar c = false) :
    Text.shorten (a.text .full ++ rest) = a.text .short ++ Text.shorten rest := by
  rw [Text.shorten_append hrest, Symbol.shorten_text_full ha]

theorem shorten_arrayEnd_append (n : Option Nat) {rest : List Char} (hrest : Closes rest) :
    Text.shorten (arrayEnd n ++ rest) = arrayEnd n ++ Text.shorten rest := by
  rw [Text.shorten_append hrest.not_isPathChar]
  have hend : Text.shorten (arrayEnd n) = arrayEnd n := by
    refine Text.shorten_eq_self fun hsep => ?_
    have hcolon : ':' ∈ arrayEnd n := hsep.subset (List.mem_cons_self ..)
    cases n with
    | none => simp [arrayEnd] at hcolon
    | some n =>
      have hdigit : ':' ∈ Nat.toDigits 10 n := by simpa [arrayEnd] using hcolon
      exact Text.notMem_toDigits (by decide) n hdigit
  rw [hend]

/-- The mark of a bound has a colon in it, but never two next to each other. -/
theorem shorten_bound_append {mark : List Char} (hmark : mark = ['?', ' ', '<', ':'] ∨
    mark = ['?', ' ', ':', '>']) (rest : List Char) :
    Text.shorten (mark ++ ' ' :: rest) = mark ++ ' ' :: Text.shorten rest := by
  have hself : Text.shorten mark = mark := by
    refine Text.shorten_eq_self ?_
    rcases hmark with rfl | rfl <;> decide
  have hspace : Text.isPathChar ' ' = false := by decide
  rw [Text.shorten_append_cons hspace, hself]

/-! ### Shortening a rendering -/

theorem shorten_laterOnto {es : List (Expr Symbol)} (h : ∀ e ∈ es, ∀ rest, Closes rest →
      Text.shorten (renderOnto (Symbol.text .full) e rest) =
        renderOnto (Symbol.text .short) e (Text.shorten rest)) (rest : List Char) :
    Text.shorten (laterOnto (Symbol.text .full) es rest) =
      laterOnto (Symbol.text .short) es (Text.shorten rest) := by
  induction es with
  | nil => rw [laterOnto, laterOnto, Text.shorten_cons_of_not_isPathChar (by decide)]
  | cons e es ih =>
    rw [laterOnto, laterOnto, Text.shorten_cons_of_not_isPathChar (by decide),
      Text.shorten_cons_of_not_isPathChar (by decide),
      h e (List.mem_cons_self ..) _ (closes_laterOnto es rest),
      ih fun e he => h e (List.mem_cons_of_mem _ he)]

/-- To shorten the full rendering of an expression is to write it short. -/
theorem EvenColonRuns.shorten_renderOnto {e : Expr Symbol} (h : e.EvenColonRuns) {rest : List Char}
    (hrest : Closes rest) :
    Text.shorten (renderOnto (Symbol.text .full) e rest) =
      renderOnto (Symbol.text .short) e (Text.shorten rest) := by
  induction h generalizing rest with
  | nominal ha => exact shorten_symbol_append ha hrest.not_isPathChar
  | @app a as ha has ih =>
    cases as with
    | nil => exact shorten_symbol_append ha hrest.not_isPathChar
    | cons e es =>
      have hangle : Text.isPathChar '<' = false := by decide
      have hes := shorten_laterOnto (fun e' he' rest hrest =>
        ih e' (List.mem_cons_of_mem e he') hrest) rest
      rw [renderOnto, renderOnto, argumentsOnto, argumentsOnto,
        shorten_symbol_append ha (Text.not_isPathChar_head?_cons hangle _),
        Text.shorten_cons_of_not_isPathChar hangle,
        ih e (List.mem_cons_self ..) (closes_laterOnto es rest), hes]
  | @array c n _ ih =>
    rw [renderOnto, renderOnto, Text.shorten_cons_of_not_isPathChar (by decide),
      ih (closes_arrayEnd n rest), shorten_arrayEnd_append n hrest]
  | freeVar hx =>
    rw [renderOnto, renderOnto, Text.shorten_append hrest.not_isPathChar, Text.shorten_eq_self hx]
  | anything =>
    rw [renderOnto, renderOnto, Text.shorten_cons_of_not_isPathChar (by decide)]
  | @subtypeOf b _ ih =>
    rw [renderOnto, renderOnto, ← ih hrest]
    exact shorten_bound_append (Or.inl rfl) _
  | @supertypeOf b _ ih =>
    rw [renderOnto, renderOnto, ← ih hrest]
    exact shorten_bound_append (Or.inr rfl) _

theorem EvenColonRuns.shorten_text {e : Expr Symbol} (h : e.EvenColonRuns) :
    Text.shorten (e.text (Symbol.text .full)) = e.text (Symbol.text .short) :=
  h.shorten_renderOnto closes_nil

end Expr

/-- **The short rendering is the shortened full rendering** of an expression in whose names colons come
in runs of even length, of the descriptor it is described by, and of a reference to its type. -/
theorem short_rendering_is_shortened_full {e : Expr Symbol} (h : e.EvenColonRuns) :
    (e.render .short).toList = Text.shorten (e.render .full).toList ∧
    (∀ d, (describe e).outcome = .ok d →
      (d.render .short).toList = Text.shorten (d.render .full).toList) ∧
    (e.renderReference .short).toList = Text.shorten (e.renderReference .full).toList := by
  have htext := h.shorten_text
  have hrender : (e.render .short).toList = Text.shorten (e.render .full).toList := by
    rw [Expr.render, Expr.render, String.toList_ofList, String.toList_ofList, htext]
  refine ⟨hrender, fun d hd => ?_, hrender⟩
  have hde : d.Describes e := outcome_describeAt_eq_ok_iff.1 hd
  have hsame : ∀ style, d.text (Symbol.text style) = e.text (Symbol.text style) :=
    fun style => hde.renderOnto_eq (Symbol.text style) []
  rw [Descriptor.render, Descriptor.render, String.toList_ofList, String.toList_ofList, hsame, hsame,
    htext]

/-- A bounded tuple type beside an array of a variable that is named by a lone colon, and the descriptor
of a map from tuples; one symbol has four colons in a row. -/
theorem short_rendering_is_shortened_full_of_map :
    let map (k v : Expr Symbol) : Expr Symbol := .app ⟨.numbered 0, "m::a::Map<_, _>"⟩ [k, v]
    let pair : Symbol := ⟨.numbered 1, "(m::A, b)"⟩
    let odd : Expr Symbol := .app ⟨.numbered 2, "n::::Odd"⟩ []
    let bounded := map (.array (.freeVar ":") (some 12)) (.subtypeOf (.app pair [odd, .anything]))
    let plain := map (.nominal pair) odd
    bounded.EvenColonRuns ∧ plain.EvenColonRuns ∧
      bounded.render .full = "m::a::Map<[:; 12], ? <: (m::A, b)<n::::Odd, ?>>" ∧
      (bounded.render .short).toList = Text.shorten (bounded.render .full).toList ∧
      (bounded.renderReference .short).toList =
        Text.shorten (bounded.renderReference .full).toList ∧
      ∃ d, (describe plain).outcome = .ok d ∧
        (d.render .short).toList = Text.shorten (d.render .full).toList := by
  intro map pair odd bounded plain
  have hmap : ∀ k v, k.EvenColonRuns → v.EvenColonRuns → (map k v).EvenColonRuns := by
    intro k v hk hv
    refine .app (by decide +kernel) fun e he => ?_
    simp only [List.mem_cons, List.not_mem_nil, or_false] at he
    rcases he with rfl | rfl
    · exact hk
    · exact hv
  have hodd : odd.EvenColonRuns := .app (by decide +kernel) (by simp)
  have hpair : Text.EvenColonRuns pair.fullName.toList := by decide +kernel
  have hbounded : bounded.EvenColonRuns := by
    refine hmap _ _ (.array _ (.freeVar (by decide +kernel))) (.subtypeOf (.app hpair fun e he => ?_))
    simp only [List.mem_cons, List.not_mem_nil, or_false] at he
    rcases he with rfl | rfl
    · exact hodd
    · exact .anything
  have hplain : plain.EvenColonRuns := hmap _ _ (.nominal hpair) hodd
  obtain ⟨d, hd⟩ : ∃ d, (describe plain).outcome = .ok d := ⟨_, rfl⟩
  obtain ⟨hrender, -, hreference⟩ := short_rendering_is_shortened_full hbounded
  exact ⟨hbounded, hplain, by decide +kernel, hrender, hreference, d, hd,
    (short_rendering_is_shortened_full hplain).2.1 d hd⟩

end TypeShape
