import TypeShape.Proofs.Description.Names
import TypeShape.Proofs.Rendering.Described
import TypeShape.Proofs.Text.Run

/-!
# Renderings are read in one way

What a rendering shows of an expression is its `written` form: heads by their names, a variable as a
nominal type of its name, an application to nothing as the bare symbol. Over names without marks the
written form is all that can be told from the text, and all of it can be told.

* `Expr.renderOnto_written`: an expression and its written form are the same text;
* `Legible w` — all names in the written form `w` are made of path characters;
* `formOf_renderOnto`: how the text of a legible form opens tells its outermost form;
* `Legible.readBack`: a legible form and the text behind it are known from the two together;
* `Expr.PathNamed`, `Descriptor.PathNamed`: all names in the tree are paths, so its written form is
  legible (`PathNamed.legible`).

Main statement: `rendering_tells_written_form`.
-/

namespace TypeShape

namespace Expr

variable {ρ : Type}

/-! ### Written forms -/

mutual
/-- What the rendering of an expression shows. -/
def written (name : ρ → String) : Expr ρ → Expr String
  | .nominal a => .nominal (name a)
  | .app a [] => .nominal (name a)
  | .app a (e :: es) => .app (name a) (written name e :: writtenList name es)
  | .array c n => .array (written name c) n
  | .freeVar x => .nominal x
  | .anything => .anything
  | .subtypeOf b => .subtypeOf (written name b)
  | .supertypeOf b => .supertypeOf (written name b)
def writtenList (name : ρ → String) : List (Expr ρ) → List (Expr String)
  | [] => []
  | e :: es => written name e :: writtenList name es
end

theorem writtenList_eq (name : ρ → String) (es : List (Expr ρ)) :
    writtenList name es = es.map (written name) := by
  induction es with
  | nil => rfl
  | cons e es ih => rw [writtenList, ih, List.map_cons]

theorem written_app_cons (name : ρ → String) (a : ρ) (e : Expr ρ) (es : List (Expr ρ)) :
    written name (.app a (e :: es)) = .app (name a) ((e :: es).map (written name)) := by
  rw [written, writtenList_eq, List.map_cons]

theorem laterOnto_written {name : ρ → String} {label : ρ → List Char} {es : List (Expr ρ)}
    (h : ∀ e ∈ es, ∀ rest,
      renderOnto String.toList (written name e) rest = renderOnto label e rest) (rest : List Char) :
    laterOnto String.toList (es.map (written name)) rest = laterOnto label es rest := by
  induction es with
  | nil => rfl
  | cons e es ih =>
    rw [List.map_cons, laterOnto, laterOnto, h e (List.mem_cons_self ..),
      ih fun e he => h e (List.mem_cons_of_mem _ he)]

/-- The written form has the rendering of the expression. -/
theorem renderOnto_written {name : ρ → String} {label : ρ → List Char}
    (hlabel : ∀ a, (name a).toList = label a) (e : Expr ρ) (rest : List Char) :
    renderOnto String.toList (written name e) rest = renderOnto label e rest := by
  induction e using induct generalizing rest with
  | nominal a => rw [written, renderOnto, renderOnto, hlabel]
  | app a as ih =>
    cases as with
    | nil => rw [written, renderOnto, renderOnto, hlabel, argumentsOnto]
    | cons e es =>
      have hes := laterOnto_written (fun e he => ih e (List.mem_cons_of_mem _ he)) rest
      rw [written_app_cons, renderOnto, renderOnto, hlabel, List.map_cons, argumentsOnto,
        argumentsOnto, ih e (List.mem_cons_self ..), hes]
  | array c n ih => rw [written, renderOnto, renderOnto, ih]
  | freeVar x => rfl
  | anything => rfl
  | subtypeOf b ih => rw [written, renderOnto, renderOnto, ih]
  | supertypeOf b ih => rw [written, renderOnto, renderOnto, ih]

/-! ### Legible forms -/

/-- **A written form whose names have no marks in them.** Names may be empty. -/
inductive Legible : Expr String → Prop
  | nominal {x : String} (hx : ∀ c ∈ x.toList, Text.isPathChar c = true) : Legible (.nominal x)
  | app {x : String} {w : Expr String} {ws : List (Expr String)}
    (hx : ∀ c ∈ x.toList, Text.isPathChar c = true) (hw : Legible w) (hws : ∀ v ∈ ws, Legible v) :
    Legible (.app x (w :: ws))
  | array {w : Expr String} (n : Option Nat) (hw : Legible w) : Legible (.array w n)
  | anything : Legible .anything
  | subtypeOf {w : Expr String} (hw : Legible w) : Legible (.subtypeOf w)
  | supertypeOf {w : Expr String} (hw : Legible w) : Legible (.supertypeOf w)

/-- What may stand behind an expression inside another one. -/
def Closes (rest : List Char) : Prop :=
  ∀ c ∈ rest.head?, c = ',' ∨ c = '>' ∨ c = ']' ∨ c = ';'

theorem Closes.not_isPathChar {rest : List Char} (h : Closes rest) :
    ∀ c ∈ rest.head?, Text.isPathChar c = false := by
  intro c hc
  rcases h c hc with rfl | rfl | rfl | rfl <;> decide

theorem closes_nil : Closes [] := by simp [Closes]

theorem closes_arrayEnd (n : Option Nat) (rest : List Char) : Closes (arrayEnd n ++ rest) := by
  cases n <;> simp [Closes, arrayEnd]

theorem closes_laterOnto {label : ρ → List Char} (es : List (Expr ρ)) (rest : List Char) :
    Closes (laterOnto label es rest) := by
  cases es <;> simp [Closes, laterOnto]

theorem arrayEnd_append_inj {m n : Option Nat} {rest rest' : List Char}
    (h : arrayEnd m ++ rest = arrayEnd n ++ rest') : m = n ∧ rest = rest' := by
  cases m with
  | none =>
    cases n with
    | none => exact ⟨rfl, by simpa [arrayEnd] using h⟩
    | some n => simp [arrayEnd] at h
  | some m =>
    cases n with
    | none => simp [arrayEnd] at h
    | some n =>
      have hdigits : Nat.toDigits 10 m ++ ']' :: rest = Nat.toDigits 10 n ++ ']' :: rest' := by
        simpa [arrayEnd] using h
      obtain ⟨rfl, hrest⟩ := Text.toDigits_append_inj (by simp) (by simp) hdigits
      exact ⟨rfl, (List.cons.inj hrest).2⟩

/-! ### How a text opens -/

/-- The forms that can be told apart by how their text opens. -/
inductive Form where
  | bare
  | applied
  | bracketed
  | unbounded
  | boundedAbove
  | boundedBelow

/-- The form of a legible expression. -/
def form : Expr String → Form
  | .nominal _ => .bare
  | .app _ _ => .applied
  | .array _ _ => .bracketed
  | .freeVar _ => .bare
  | .anything => .unbounded
  | .subtypeOf _ => .boundedAbove
  | .supertypeOf _ => .boundedBelow

/-- The form that a text opens with. -/
def formOf : List Char → Form
  | '[' :: _ => .bracketed
  -- an upper bound shares its mark with argument lists, but no name begins with the question mark
  | '?' :: ' ' :: '<' :: _ => .boundedAbove
  | '?' :: ' ' :: ':' :: _ => .boundedBelow
  | '?' :: _ => .unbounded
  | s => if (s.dropWhile Text.isPathChar).head? = some '<' then .applied else .bare

theorem formOf_of_head? {s : List Char} (h : ∀ c ∈ s.head?, c ≠ '[' ∧ c ≠ '?') :
    formOf s = if (s.dropWhile Text.isPathChar).head? = some '<' then .applied else .bare := by
  unfold formOf
  split <;> first | rfl | simp at h

theorem formOf_append_of_run {run rest : List Char} (hrun : ∀ c ∈ run, Text.isPathChar c = true)
    (hrest : ∀ c ∈ rest.head?, c = '<' ∨ c = ',' ∨ c = '>' ∨ c = ']' ∨ c = ';') :
    formOf (run ++ rest) = if rest.head? = some '<' then .applied else .bare := by
  have hmarks : ∀ c ∈ rest.head?, Text.isPathChar c = false ∧ c ≠ '[' ∧ c ≠ '?' := by
    intro c hc
    rcases hrest c hc with rfl | rfl | rfl | rfl | rfl <;> decide
  have hopen : ∀ c ∈ (run ++ rest).head?, c ≠ '[' ∧ c ≠ '?' := by
    intro c hc
    cases run with
    | nil => exact (hmarks c hc).2
    | cons x run =>
      obtain rfl : x = c := Option.some.inj hc
      have hx := hrun x (List.mem_cons_self ..)
      constructor <;> rintro rfl <;> revert hx <;> decide
  rw [formOf_of_head? hopen,
    Text.dropWhile_append_of_run hrun fun c hc => (hmarks c hc).1]

theorem formOf_renderOnto {w : Expr String} (h : Legible w) {rest : List Char}
    (hrest : Closes rest) : formOf (renderOnto String.toList w rest) = form w := by
  cases h with
  | @nominal x hx =>
    have hbare : rest.head? ≠ some '<' := by
      intro hc
      have hmark := hrest '<' hc
      revert hmark
      decide
    have hform := formOf_append_of_run hx fun c hc => Or.inr (hrest c hc)
    rw [if_neg hbare] at hform
    exact hform
  | @app x w ws hx _ _ =>
    have hangle : ∀ r, formOf (x.toList ++ '<' :: r) = .applied := by
      intro r
      rw [formOf_append_of_run hx (by simp), List.head?_cons, if_pos rfl]
    exact hangle _
  | array n _ => rfl
  | anything =>
    cases rest with
    | nil => rfl
    | cons c rest => rcases hrest c rfl with rfl | rfl | rfl | rfl <;> rfl
  | subtypeOf _ => rfl
  | supertypeOf _ => rfl

theorem form_eq_of_renderOnto_eq {w w' : Expr String} (h : Legible w) (h' : Legible w')
    {rest rest' : List Char} (hrest : Closes rest) (hrest' : Closes rest')
    (heq : renderOnto String.toList w rest = renderOnto String.toList w' rest') :
    form w = form w' := by
  rw [← formOf_renderOnto h hrest, heq, formOf_renderOnto h' hrest']

/-! ### Reading a text in one way -/

/-- A legible form and the text behind it are known from the two together. -/
def ReadBack (w : Expr String) : Prop :=
  ∀ w' rest rest', Legible w' → Closes rest → Closes rest' →
    renderOnto String.toList w rest = renderOnto String.toList w' rest' → w = w' ∧ rest = rest'

theorem laterOnto_inj {ws ws' : List (Expr String)} (hws : ∀ w ∈ ws, ReadBack w)
    (hws' : ∀ w ∈ ws', Legible w) {rest rest' : List Char}
    (h : laterOnto String.toList ws rest = laterOnto String.toList ws' rest') :
    ws = ws' ∧ rest = rest' := by
  induction ws generalizing ws' with
  | nil =>
    cases ws' with
    | nil => exact ⟨rfl, (List.cons.inj h).2⟩
    | cons w' ws' => simp [laterOnto] at h
  | cons w ws ih =>
    cases ws' with
    | nil => simp [laterOnto] at h
    | cons w' ws' =>
      have htail : renderOnto String.toList w (laterOnto String.toList ws rest) =
          renderOnto String.toList w' (laterOnto String.toList ws' rest') := by
        simpa [laterOnto] using h
      -- whatever follows the first argument begins with a comma or the closing bracket
      obtain ⟨rfl, hlater⟩ := hws w (List.mem_cons_self ..) w' _ _
        (hws' w' (List.mem_cons_self ..)) (closes_laterOnto ws rest) (closes_laterOnto ws' rest') htail
      obtain ⟨rfl, hrest⟩ := ih (fun v hv => hws v (List.mem_cons_of_mem _ hv))
        (fun v hv => hws' v (List.mem_cons_of_mem _ hv)) hlater
      exact ⟨rfl, hrest⟩

theorem readBack_of_form {w : Expr String} (h : Legible w)
    (hsame : ∀ w' rest rest', Legible w' → form w = form w' → Closes rest → Closes rest' →
      renderOnto String.toList w rest = renderOnto String.toList w' rest' →
      w = w' ∧ rest = rest') : ReadBack w := by
  intro w' rest rest' h' hrest hrest' heq
  have hform := form_eq_of_renderOnto_eq h h' hrest hrest' heq
  exact hsame w' rest rest' h' hform hrest hrest' heq

theorem readBack_nominal {x : String} (hx : ∀ c ∈ x.toList, Text.isPathChar c = true) :
    ReadBack (.nominal x) := by
  refine readBack_of_form (.nominal hx) fun w' rest rest' h' hform hrest hrest' heq => ?_
  cases h' with
  | @nominal x' hx' =>
    obtain ⟨hname, hrr⟩ := Text.append_inj_of_run hx hx' hrest.not_isPathChar
      hrest'.not_isPathChar heq
    exact ⟨congrArg nominal (String.toList_inj.1 hname), hrr⟩
  | _ => cases hform

theorem readBack_app {x : String} {w : Expr String} {ws : List (Expr String)}
    (hx : ∀ c ∈ x.toList, Text.isPathChar c = true) (hw : Legible w) (hws : ∀ v ∈ ws, Legible v)
    (ihw : ReadBack w) (ihws : ∀ v ∈ ws, ReadBack v) : ReadBack (.app x (w :: ws)) := by
  refine readBack_of_form (.app hx hw hws) fun w' rest rest' h' hform hrest hrest' heq => ?_
  cases h' with
  | @app x' v vs hx' hv hvs =>
    have hangle : ∀ r : List Char, ∀ c ∈ ('<' :: r).head?, Text.isPathChar c = false := by
      intro r c hc
      obtain rfl : '<' = c := Option.some.inj hc
      decide
    -- both names end at the bracket, and each argument at the comma or the bracket behind it
    obtain ⟨hname, hargs⟩ := Text.append_inj_of_run hx hx' (hangle _) (hangle _) heq
    obtain ⟨rfl, hlater⟩ := ihw v _ _ hv (closes_laterOnto ws rest) (closes_laterOnto vs rest')
      (List.cons.inj hargs).2
    obtain ⟨rfl, hrr⟩ := laterOnto_inj ihws hvs hlater
    exact ⟨by rw [String.toList_inj.1 hname], hrr⟩
  | _ => cases hform

theorem readBack_array {w : Expr String} (n : Option Nat) (hw : Legible w) (ih : ReadBack w) :
    ReadBack (.array w n) := by
  refine readBack_of_form (.array n hw) fun w' rest rest' h' hform hrest hrest' heq => ?_
  cases h' with
  | @array v m hv =>
    obtain ⟨rfl, hend⟩ := ih v _ _ hv (closes_arrayEnd n rest) (closes_arrayEnd m rest')
      (List.cons.inj heq).2
    obtain ⟨rfl, hrr⟩ := arrayEnd_append_inj hend
    exact ⟨rfl, hrr⟩
  | _ => cases hform

theorem readBack_anything : ReadBack .anything := by
  refine readBack_of_form .anything fun w' rest rest' h' hform hrest hrest' heq => ?_
  cases h' with
  | anything => exact ⟨rfl, (List.cons.inj heq).2⟩
  | _ => cases hform

theorem readBack_subtypeOf {w : Expr String} (hw : Legible w) (ih : ReadBack w) :
    ReadBack (.subtypeOf w) := by
  refine readBack_of_form (.subtypeOf hw) fun w' rest rest' h' hform hrest hrest' heq => ?_
  cases h' with
  | @subtypeOf v hv =>
    obtain ⟨rfl, hrr⟩ := ih v rest rest' hv hrest hrest' (List.append_cancel_left heq)
    exact ⟨rfl, hrr⟩
  | _ => cases hform

theorem readBack_supertypeOf {w : Expr String} (hw : Legible w) (ih : ReadBack w) :
    ReadBack (.supertypeOf w) := by
  refine readBack_of_form (.supertypeOf hw) fun w' rest rest' h' hform hrest hrest' heq => ?_
  cases h' with
  | @supertypeOf v hv =>
    obtain ⟨rfl, hrr⟩ := ih v rest rest' hv hrest hrest' (List.append_cancel_left heq)
    exact ⟨rfl, hrr⟩
  | _ => cases hform

theorem Legible.readBack {w : Expr String} (h : Legible w) : ReadBack w := by
  induction h with
  | nominal hx => exact readBack_nominal hx
  | app hx hw hws ihw ihws => exact readBack_app hx hw hws ihw ihws
  | array n hw ih => exact readBack_array n hw ih
  | anything => exact readBack_anything
  | subtypeOf hw ih => exact readBack_subtypeOf hw ih
  | supertypeOf hw ih => exact readBack_supertypeOf hw ih

theorem Legible.eq_of_text_eq {w w' : Expr String} (h : Legible w) (h' : Legible w')
    (heq : w.text String.toList = w'.text String.toList) : w = w' :=
  (h.readBack w' [] [] h' closes_nil closes_nil heq).1

/-! ### Expressions named by paths -/

/-- **All names in the expression are paths.** A variable is named by identifier characters, and its
name may be empty. -/
inductive PathNamed : Expr Symbol → Prop
  | nominal {a : Symbol} (ha : a.PathNamed) : PathNamed (.nominal a)
  | app {a : Symbol} {as : List (Expr Symbol)} (ha : a.PathNamed) (has : ∀ e ∈ as, PathNamed e) :
    PathNamed (.app a as)
  | array {c : Expr Symbol} (n : Option Nat) (hc : PathNamed c) : PathNamed (.array c n)
  | freeVar {x : String} (hx : ∀ c ∈ x.toList, Text.isIdentifierChar c = true) :
    PathNamed (.freeVar x)
  | anything : PathNamed .anything
  | subtypeOf {b : Expr Symbol} (hb : PathNamed b) : PathNamed (.subtypeOf b)
  | supertypeOf {b : Expr Symbol} (hb : PathNamed b) : PathNamed (.supertypeOf b)

theorem PathNamed.legible {e : Expr Symbol} (h : e.PathNamed) (style : NameStyle) :
    Legible (e.written (Symbol.render style)) := by
  have hname : ∀ a : Symbol, a.PathNamed →
      ∀ c ∈ (a.render style).toList, Text.isPathChar c = true := by
    intro a ha c hc
    rw [Symbol.render, String.toList_ofList] at hc
    exact ha.isPathChar_of_mem style hc
  induction h with
  | nominal ha => exact .nominal (hname _ ha)
  | @app a as ha has ih =>
    cases as with
    | nil => exact .nominal (hname a ha)
    | cons e es =>
      rw [written_app_cons]
      refine .app (hname a ha) (ih e (List.mem_cons_self ..)) fun v hv => ?_
      obtain ⟨e', he', rfl⟩ := List.mem_map.1 hv
      exact ih e' (List.mem_cons_of_mem e he')
  | array n _ ih => exact .array n ih
  | freeVar hx => exact .nominal fun c hc => Text.isPathChar_of_isIdentifierChar (hx c hc)
  | anything => exact .anything
  | subtypeOf _ ih => exact .subtypeOf ih
  | supertypeOf _ ih => exact .supertypeOf ih

theorem render_eq_iff_text_written {style : NameStyle} {e e' : Expr Symbol} :
    e.render style = e'.render style ↔
      (e.written (Symbol.render style)).text String.toList =
        (e'.written (Symbol.render style)).text String.toList := by
  have hlabel : ∀ a : Symbol, (a.render style).toList = a.text style := fun a =>
    String.toList_ofList
  have htext : ∀ e : Expr Symbol,
      (e.written (Symbol.render style)).text String.toList = e.text (Symbol.text style) :=
    fun e => renderOnto_written hlabel e []
  rw [htext, htext, render, render, String.ofList_inj]

/-- Over paths, two expressions are the same text exactly when they have the same written form. -/
theorem PathNamed.render_eq_iff {e e' : Expr Symbol} (h : e.PathNamed) (h' : e'.PathNamed)
    (style : NameStyle) :
    e.render style = e'.render style ↔
      e.written (Symbol.render style) = e'.written (Symbol.render style) := by
  rw [render_eq_iff_text_written]
  constructor
  · exact (h.legible style).eq_of_text_eq (h'.legible style)
  · intro heq
    rw [heq]

end Expr

/-! ### Descriptors named by paths -/

namespace Descriptor

variable {ρ : Type}

/-- All heads in the descriptor are named by paths. -/
inductive PathNamed : Descriptor Symbol → Prop
  | node {a : Symbol} {ds : List (Descriptor Symbol)} (ha : a.PathNamed)
    (hds : ∀ d ∈ ds, PathNamed d) : PathNamed (.node a ds)

theorem PathNamed.toExpr {d : Descriptor Symbol} (h : d.PathNamed) : d.toExpr.PathNamed := by
  induction h with
  | @node a ds ha _ ih =>
    cases ds with
    | nil => exact .nominal ha
    | cons d ds =>
      rw [toExpr_node_cons]
      refine .app ha fun e he => ?_
      obtain ⟨x, hx, rfl⟩ := List.mem_map.1 he
      exact ih x hx

theorem written_toExpr (name : ρ → String) (d : Descriptor ρ) :
    d.toExpr.written name = (d.map name).toExpr :=
  toExpr_map_of_forall (g := Expr.written name) (fun _ => rfl) (Expr.written_app_cons name) d

/-- Over paths, two descriptors are the same text exactly when they have the same names at the same
positions. -/
theorem PathNamed.render_eq_iff {d d' : Descriptor Symbol} (h : d.PathNamed) (h' : d'.PathNamed)
    (style : NameStyle) :
    d.render style = d'.render style ↔ ∀ p,
      (d.at? p).map (fun x => x.head.render style) = (d'.at? p).map (fun x => x.head.render style) := by
  have hrender : ∀ x : Descriptor Symbol, x.render style = x.toExpr.render style := by
    intro x
    rw [render, Expr.render, text_toExpr]
  rw [hrender, hrender, h.toExpr.render_eq_iff h'.toExpr, written_toExpr, written_toExpr,
    ← map_eq_map_iff_at?]
  exact ⟨toExpr_injective, congrArg Descriptor.toExpr⟩

end Descriptor

/-- **Over paths, a rendering tells everything it writes.** Two expressions whose names are paths are the
same text exactly when they are the same tree after every symbol is replaced by its name in that style,
a variable by a nominal type of its name and an application to nothing by the bare symbol. Two
descriptors are the same text exactly when they have the same names at the same positions. -/
theorem rendering_tells_written_form (style : NameStyle) :
    (∀ e e' : Expr Symbol, e.PathNamed → e'.PathNamed →
      (e.render style = e'.render style ↔
        e.written (Symbol.render style) = e'.written (Symbol.render style))) ∧
    ∀ d d' : Descriptor Symbol, d.PathNamed → d'.PathNamed →
      (d.render style = d'.render style ↔ ∀ p,
        (d.at? p).map (fun x => x.head.render style) =
          (d'.at? p).map (fun x => x.head.render style)) :=
  ⟨fun _ _ h h' => h.render_eq_iff h' style, fun _ _ h h' => h.render_eq_iff h' style⟩

/-- A map to bounded types, where a variable and an empty application may stand for what is written
the same: the short texts agree, also for the symbol with the empty short name, and the full texts tell
the two apart. The descriptors of two lists are told apart by their only parameters. -/
theorem rendering_tells_written_form_of_maps :
    let symbol (name : String) : Symbol := ⟨.numbered 0, name⟩
    let e (x : Expr Symbol) (map unnamed : String) : Expr Symbol :=
      .app (symbol map) [.array x (some 12), .subtypeOf (.app (symbol unnamed) [.anything])]
    let d (x : String) : Descriptor Symbol := .node (symbol "m::List<_>") [.node (symbol x) []]
    let e₁ := e (.freeVar "K") "m::Map<_, _>" "m::"
    let e₂ := e (.app (symbol "K") []) "n::Map" "n::"
    e₁.PathNamed ∧ e₂.PathNamed ∧ (d "u8").PathNamed ∧ (d "u16").PathNamed ∧
      e₁.render .short = "Map<[K; 12], ? <: <?>>" ∧ e₁.render .short = e₂.render .short ∧
      e₁.render .full ≠ e₂.render .full ∧ (d "u8").render .short ≠ (d "u16").render .short := by
  intro symbol e d e₁ e₂
  have hvariable : ∀ c ∈ "K".toList, Text.isIdentifierChar c = true := by
    intro c hc
    obtain rfl : c = 'K' := by simpa using hc
    decide
  have he : ∀ x map unnamed, x.PathNamed → (symbol map).PathNamed → (symbol unnamed).PathNamed →
      (e x map unnamed).PathNamed := by
    intro x map unnamed hx hmap hunnamed
    refine .app hmap fun c hc => ?_
    simp only [List.mem_cons, List.not_mem_nil, or_false] at hc
    rcases hc with rfl | rfl
    · exact .array _ hx
    · refine .subtypeOf (.app hunnamed fun c hc => ?_)
      obtain rfl := List.mem_singleton.1 hc
      exact .anything
  have hd : ∀ x, (symbol x).PathNamed → (d x).PathNamed := by
    intro x hx
    refine .node (by decide) fun c hc => ?_
    obtain rfl := List.mem_singleton.1 hc
    exact .node hx (by simp)
  have h₁ : e₁.PathNamed := he _ _ _ (.freeVar hvariable) (by decide) (by decide)
  have h₂ : e₂.PathNamed := he _ _ _ (.app (by decide) (by simp)) (by decide) (by decide)
  have hd₈ : (d "u8").PathNamed := hd "u8" (by decide)
  have hd₁₆ : (d "u16").PathNamed := hd "u16" (by decide)
  refine ⟨h₁, h₂, hd₈, hd₁₆, by decide +kernel, ?_, ?_, ?_⟩
  · have hmap : (symbol "m::Map<_, _>").render .short = (symbol "n::Map").render .short := by
      decide +kernel
    have hunnamed : (symbol "m::").render .short = (symbol "n::").render .short := by
      decide +kernel
    have hkey : (symbol "K").render .short = "K" := by decide +kernel
    refine ((rendering_tells_written_form .short).1 e₁ e₂ h₁ h₂).2 ?_
    simp only [e₁, e₂, e, Expr.written, Expr.writtenList, hmap, hunnamed, hkey]
  · intro h
    have hwritten := ((rendering_tells_written_form .full).1 e₁ e₂ h₁ h₂).1 h
    have hhead : (symbol "m::Map<_, _>").render .full = (symbol "n::Map").render .full :=
      Option.some.inj (congrArg Expr.head? hwritten)
    exact absurd hhead (by decide +kernel)
  · intro h
    have hpositions := ((rendering_tells_written_form .short).2 _ _ hd₈ hd₁₆).1 h
    have hhead : (symbol "u8").render .short = (symbol "u16").render .short :=
      Option.some.inj (hpositions [0])
    exact absurd hhead (by decide +kernel)

end TypeShape
