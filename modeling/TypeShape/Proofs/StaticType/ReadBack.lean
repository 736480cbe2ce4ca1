import TypeShape.Proofs.Description.Shape
import TypeShape.StaticType.Basic
import Mathlib.Data.List.Nodup

/-!
# Reading a static type back

* `StaticType.Built D t` — `t` is built from the names that `D` declares, arrays, slices and values of
  any type; no type in it states an expression of its own;
* `Built.induct_reflect`: induction on a built type together with its expression;
* `forgetMarkers`: the same type with all values of any type alike;
* `readBack? D`: the built type of a tree of identities. Where all declared identities differ it
  undoes reflection, up to markers: `Built.readBack?_eq`.
-/

namespace TypeShape

/-! ### The names of identities -/

/-- The name of the first declaration with an identity. -/
def Declarations.name? (declarations : Declarations) (i : Identity) : Option String :=
  (declarations.find? fun d => d.symbol.identity == i).map (·.name)

/-- No two declarations have the same identity. -/
def Declarations.Distinct (declarations : Declarations) : Prop :=
  (declarations.map fun d => d.symbol.identity).Nodup

theorem Declarations.Distinct.name?_identity {D : Declarations} (hD : D.Distinct) {name : String}
    {arity : Nat} {a : Symbol} (h : D.symbol? name arity = some a) :
    D.name? a.identity = some name := by
  obtain ⟨d, hd, rfl⟩ := Option.map_eq_some_iff.1 h
  have hmem := List.mem_of_find?_eq_some hd
  have hname : d.name = name := by
    have := List.find?_some hd
    simp only [Bool.and_eq_true, beq_iff_eq] at this
    exact this.1
  cases hfind : D.find? fun d' => d'.symbol.identity == d.symbol.identity with
  | none => simpa using List.find?_eq_none.1 hfind d hmem
  | some d' =>
    have hmem' := List.mem_of_find?_eq_some hfind
    have hid : d'.symbol.identity = d.symbol.identity := by simpa using List.find?_some hfind
    obtain rfl := List.inj_on_of_nodup_map hD hmem' hmem hid
    rw [name?, hfind, Option.map_some, hname]

namespace StaticType

/-! ### Built types -/

/-- **Built types**: every name is declared with the number of arguments it is given. -/
inductive Built (D : Declarations) : StaticType → Prop
  | plain {name : String} (h : (D.symbol? name 0).isSome) : Built D (.plain name)
  | generic {name : String} {first : StaticType} {others : List StaticType}
    (h : (D.symbol? name (others.length + 1)).isSome) (arguments : ∀ t ∈ first :: others, Built D t) :
    Built D (.generic name first others)
  | array {c : StaticType} (n : Nat) (h : Built D c) : Built D (.array c n)
  | slice {c : StaticType} (h : Built D c) : Built D (.slice c)
  | dynAny (m : Marker) : Built D (.dynAny m)

variable {D : Declarations}

theorem reflectList?_eq_some_iff_forall₂ {ts : List StaticType} {es : List (Expr Symbol)} :
    reflectList? D ts = some es ↔ List.Forall₂ (fun e t => reflect? D t = some e) es ts := by
  rw [reflectList?_eq_some_iff, ← List.forall₂_eq_eq_eq, List.forall₂_map_left_iff,
    List.forall₂_map_right_iff]
  exact ⟨fun h => h.flip, fun h => h.flip⟩

theorem reflect?_generic_eq_some_iff {name : String} {first : StaticType} {others : List StaticType}
    {x : Expr Symbol} :
    reflect? D (.generic name first others) = some x ↔
      ∃ a e es, D.symbol? name (others.length + 1) = some a ∧ x = .app a (e :: es) ∧
        List.Forall₂ (fun e t => reflect? D t = some e) (e :: es) (first :: others) := by
  simp only [List.forall₂_cons, ← reflectList?_eq_some_iff_forall₂]
  rw [reflect?]
  constructor
  · intro h
    split at h
    · next a e es ha he hes =>
      exact ⟨a, e, es, ha, (Option.some.inj h).symm, he, hes⟩
    · cases h
  · rintro ⟨a, e, es, ha, rfl, he, hes⟩
    rw [ha, he, hes]

theorem Built.exists_reflect? {t : StaticType} (ht : Built D t) : ∃ e, reflect? D t = some e := by
  induction ht with
  | plain h =>
    obtain ⟨a, ha⟩ := Option.isSome_iff_exists.1 h
    exact ⟨.nominal a, by rw [reflect?, ha, Option.map_some]⟩
  | generic h _ ih =>
    obtain ⟨a, ha⟩ := Option.isSome_iff_exists.1 h
    obtain ⟨es, hes⟩ := exists_forall₂ ih
    cases hes with
    | @cons e _ es _ he hes =>
      exact ⟨_, reflect?_generic_eq_some_iff.2 ⟨a, e, es, ha, rfl, .cons he hes⟩⟩
  | array n _ ih =>
    obtain ⟨e, he⟩ := ih
    exact ⟨.array e (some n), by rw [reflect?, he, Option.map_some]⟩
  | slice _ ih =>
    obtain ⟨e, he⟩ := ih
    exact ⟨.array e none, by rw [reflect?, he, Option.map_some]⟩
  | dynAny m => exact ⟨.anything, rfl⟩

/-- Induction on a built type together with its expression. -/
@[elab_as_elim]
theorem Built.induct_reflect {motive : StaticType → Expr Symbol → Prop}
    (plain : ∀ name a, D.symbol? name 0 = some a → motive (.plain name) (.nominal a))
    (generic : ∀ name first others a e es, D.symbol? name (others.length + 1) = some a →
      List.Forall₂ (fun e t => motive t e) (e :: es) (first :: others) →
      motive (.generic name first others) (.app a (e :: es)))
    (array : ∀ c n e, motive c e → motive (.array c n) (.array e (some n)))
    (slice : ∀ c e, motive c e → motive (.slice c) (.array e none))
    (dynAny : ∀ m, motive (.dynAny m) .anything)
    {t : StaticType} {e : Expr Symbol} (ht : Built D t) (he : reflect? D t = some e) :
    motive t e := by
  induction ht generalizing e with
  | plain _ =>
    obtain ⟨a, ha, rfl⟩ := Option.map_eq_some_iff.1 he
    exact plain _ a ha
  | generic _ _ ih =>
    obtain ⟨a, e, es, ha, rfl, hes⟩ := reflect?_generic_eq_some_iff.1 he
    refine generic _ _ _ a e es ha ?_
    have hmem : ∀ e' t', (e', t') ∈ (e :: es).zip (_ :: _) → motive t' e' := fun e' t' h =>
      ih t' (List.of_mem_zip h).2 (List.forall₂_zip hes h)
    exact List.forall₂_iff_zip.2 ⟨hes.length_eq, fun h => hmem _ _ h⟩
  | array n _ ih =>
    obtain ⟨e, hc, rfl⟩ := Option.map_eq_some_iff.1 he
    exact array _ n e (ih hc)
  | slice _ ih =>
    obtain ⟨e, hc, rfl⟩ := Option.map_eq_some_iff.1 he
    exact slice _ e (ih hc)
  | dynAny m =>
    obtain rfl := Option.some.inj he
    exact dynAny m

/-! ### Values of any type -/

mutual
/-- The same type with all values of any type alike. -/
def forgetMarkers : StaticType → StaticType
  | .plain name => .plain name
  | .generic name first others =>
    .generic name (forgetMarkers first) (forgetMarkersList others)
  | .array c n => .array (forgetMarkers c) n
  | .slice c => .slice (forgetMarkers c)
  | .dynAny _ => .dynAny .plain
  | .stated e => .stated e
def forgetMarkersList : List StaticType → List StaticType
  | [] => []
  | t :: ts => forgetMarkers t :: forgetMarkersList ts
end

theorem forgetMarkersList_eq (ts : List StaticType) : forgetMarkersList ts = ts.map forgetMarkers := by
  induction ts with
  | nil => rfl
  | cons t ts ih => rw [forgetMarkersList, ih, List.map_cons]

theorem forgetMarkers_generic (name : String) (first : StaticType) (others : List StaticType) :
    forgetMarkers (.generic name first others) =
      .generic name first.forgetMarkers (others.map forgetMarkers) := by
  rw [forgetMarkers, forgetMarkersList_eq]

/-- Markers are not part of the expression of a type. -/
theorem Built.reflect?_forgetMarkers {t : StaticType} {e : Expr Symbol} (ht : Built D t)
    (he : reflect? D t = some e) : reflect? D t.forgetMarkers = some e := by
  refine Built.induct_reflect ?plain ?generic ?array ?slice ?dynAny ht he
  case plain =>
    intro name a ha
    rw [forgetMarkers, reflect?, ha, Option.map_some]
  case generic =>
    intro name first others a e es ha hes
    rw [forgetMarkers_generic, reflect?_generic_eq_some_iff]
    refine ⟨a, e, es, by rw [List.length_map, ha], rfl, ?_⟩
    rw [← List.map_cons, List.forall₂_map_right_iff]
    exact hes
  case array =>
    intro c n e ih
    rw [forgetMarkers, reflect?, ih, Option.map_some]
  case slice =>
    intro c e ih
    rw [forgetMarkers, reflect?, ih, Option.map_some]
  case dynAny =>
    intro m
    rw [forgetMarkers, reflect?]

/-! ### Reading back -/

mutual
/-- The built type of a tree of identities, with all values of any type alike. -/
def readBack? (D : Declarations) : Expr Identity → Option StaticType
  | .nominal i => (D.name? i).map .plain
  | .app i (e :: es) =>
    match D.name? i, readBack? D e, readBackList? D es with
    | some name, some first, some others => some (.generic name first others)
    | _, _, _ => none
  | .array e (some n) => (readBack? D e).map fun c => .array c n
  | .array e none => (readBack? D e).map .slice
  | .anything => some (.dynAny .plain)
  | _ => none
def readBackList? (D : Declarations) : List (Expr Identity) → Option (List StaticType)
  | [] => some []
  | e :: es =>
    match readBack? D e, readBackList? D es with
    | some t, some ts => some (t :: ts)
    | _, _ => none
end

theorem readBackList?_eq_of_forall₂ {es : List (Expr Symbol)} {ts : List StaticType}
    (h : List.Forall₂ (fun e t => readBack? D (e.map Symbol.identity) = some t.forgetMarkers) es ts) :
    readBackList? D (es.map (Expr.map Symbol.identity)) = some (ts.map forgetMarkers) := by
  induction h with
  | nil => rfl
  | cons he _ ih => rw [List.map_cons, List.map_cons, readBackList?, he, ih]

/-- **Reading back undoes reflection**, up to the markers of values of any type. -/
theorem Built.readBack?_eq {t : StaticType} {e : Expr Symbol} (hD : D.Distinct) (ht : Built D t)
    (he : reflect? D t = some e) :
    readBack? D (e.map Symbol.identity) = some t.forgetMarkers := by
  refine Built.induct_reflect ?plain ?generic ?array ?slice ?dynAny ht he
  case plain =>
    intro name a ha
    rw [Expr.map, readBack?, hD.name?_identity ha, Option.map_some, forgetMarkers]
  case generic =>
    intro name first others a e es ha hes
    obtain ⟨hfirst, hes⟩ := List.forall₂_cons.1 hes
    have hothers := readBackList?_eq_of_forall₂ hes
    rw [Expr.map_app, List.map_cons, readBack?, hD.name?_identity ha, hfirst, hothers,
      forgetMarkers_generic]
  case array =>
    intro c n e ih
    rw [Expr.map, readBack?, ih, Option.map_some, forgetMarkers]
  case slice =>
    intro c e ih
    rw [Expr.map, readBack?, ih, Option.map_some, forgetMarkers]
  case dynAny =>
    intro m
    rw [Expr.map, readBack?, forgetMarkers]

end StaticType

end TypeShape
