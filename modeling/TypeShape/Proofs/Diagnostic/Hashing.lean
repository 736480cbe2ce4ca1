import TypeShape.Diagnostic.Feed
import TypeShape.Dictionary
import TypeShape.Proofs.Equality

/-!
# Hashing agrees with equality

Symbols feed their identities alone, so trees that are equal under `==` feed the same. The other
direction asks where the feed of a tree ends: lists say their length in front, every form of an
expression says which one it is, and a text ends with a byte that no character has.

* `Piece.ToldApart write` — two pieces of one kind are not written alike, as `Piece.value` does it;
* `Tells feed view x` — the feed of `x`, whatever follows it, is known from the view of `x`, and the
  view and what follows are known from the feed;
* `tells_feedString`, `tells_list`: texts and lists;
* `Expr.tells_feed`, `Descriptor.tells_feed`: trees, up to their identities;
* `HashAgrees feed` — what this means for a table of keys.

Main statement: `hashing_agrees_with_equality`.
-/

namespace TypeShape

/-! ### Pieces as a hash function sees them -/

namespace Piece

/-- What a hash function is handed for a piece: the bare value, so that a number does not tell what it
counts. -/
def value : Piece → Identity ⊕ Nat
  | .identity i => .inl i
  | .size n => .inr n
  | .choice n => .inr n
  | .number n => .inr n
  | .byte b => .inr b.toNat

/-- **Two pieces of one kind are not written alike.** Nothing is asked of pieces of different kinds. -/
structure ToldApart {ω : Type} (write : Piece → ω) : Prop where
  identity_iff : ∀ {i j}, write (.identity i) = write (.identity j) ↔ i = j
  size_iff : ∀ {m n}, write (.size m) = write (.size n) ↔ m = n
  choice_iff : ∀ {m n}, write (.choice m) = write (.choice n) ↔ m = n
  number_iff : ∀ {m n}, write (.number m) = write (.number n) ↔ m = n
  byte_iff : ∀ {b c}, write (.byte b) = write (.byte c) ↔ b = c

theorem toldApart_id : ToldApart (id : Piece → Piece) := by
  constructor <;> simp

theorem toldApart_value : ToldApart value := by
  constructor <;> simp [value, UInt8.toNat_inj]

end Piece

/-! ### Feeds that are read in one way -/

/-- **The feed of `x` tells its view**: two feeds with something behind them are the same exactly when the
views are the same and what stands behind is. -/
def Tells {α β ω : Type} (feed : α → List ω) (view : α → β) (x : α) : Prop :=
  ∀ y rest rest', feed x ++ rest = feed y ++ rest' ↔ view x = view y ∧ rest = rest'

theorem flatMap_append_iff {α β ω : Type} {feed : α → List ω} {view : α → β} {l l' : List α}
    (h : ∀ x ∈ l, Tells feed view x) (hlength : l.length = l'.length) (rest rest' : List ω) :
    l.flatMap feed ++ rest = l'.flatMap feed ++ rest' ↔ l.map view = l'.map view ∧ rest = rest' := by
  induction l generalizing l' with
  | nil =>
    obtain rfl := List.length_eq_zero_iff.1 hlength.symm
    simp
  | cons x l ih =>
    obtain ⟨y, l', rfl⟩ := List.exists_cons_of_length_eq_add_one hlength.symm
    have hl := ih (fun x hx => h x (List.mem_cons_of_mem _ hx)) (Nat.succ.inj hlength)
    rw [List.flatMap_cons, List.flatMap_cons, List.append_assoc, List.append_assoc,
      h x (List.mem_cons_self ..) y, hl, List.map_cons, List.map_cons, List.cons.injEq, and_assoc]

/-! ### The bytes of a text -/

theorem ofNat_ne_mark {n : Nat} (hn : n < 0xff) : UInt8.ofNat n ≠ 0xff := by
  intro h
  have hmod : n % 256 = 255 := congrArg UInt8.toNat h
  omega

/-- No byte of a character is the mark at the end of a text. -/
theorem ne_mark_of_mem_utf8EncodeChar {c : Char} {b : UInt8} (hb : b ∈ String.utf8EncodeChar c) :
    b ≠ 0xff := by
  revert hb
  -- a character has one to four bytes
  fun_cases String.utf8EncodeChar c <;> intro hb <;>
    simp only [List.mem_cons, List.not_mem_nil, or_false] at hb
  case case1 =>
    subst hb
    exact ofNat_ne_mark (by omega)
  case case2 => rcases hb with rfl | rfl <;> exact ofNat_ne_mark (by omega)
  case case3 => rcases hb with rfl | rfl | rfl <;> exact ofNat_ne_mark (by omega)
  case case4 => rcases hb with rfl | rfl | rfl | rfl <;> exact ofNat_ne_mark (by omega)

theorem eq_of_bytes_eq {s t : String}
    (h : s.toList.flatMap String.utf8EncodeChar = t.toList.flatMap String.utf8EncodeChar) :
    s = t := by
  have hbytes : s.toList.utf8Encode = t.toList.utf8Encode := congrArg List.toByteArray h
  rwa [String.utf8Encode_toList, String.utf8Encode_toList, String.toByteArray_inj] at hbytes

section Feeds

variable {ω : Type} {write : Piece → ω}

/-- Bytes are known up to the first mark. -/
theorem bytes_append_iff (hw : Piece.ToldApart write) {bs bs' : List UInt8}
    (hbs : ∀ b ∈ bs, b ≠ 0xff) (hbs' : ∀ b ∈ bs', b ≠ 0xff) (rest rest' : List ω) :
    bs.map (fun b => write (.byte b)) ++ write (.byte 0xff) :: rest =
        bs'.map (fun b => write (.byte b)) ++ write (.byte 0xff) :: rest' ↔
      bs = bs' ∧ rest = rest' := by
  induction bs generalizing bs' with
  | nil =>
    cases bs' with
    | nil => simp
    | cons b' bs' =>
      have hb' := hbs' b' (List.mem_cons_self ..)
      simp [hw.byte_iff, hb'.symm]
  | cons b bs ih =>
    cases bs' with
    | nil =>
      have hb := hbs b (List.mem_cons_self ..)
      simp [hw.byte_iff, hb]
    | cons b' bs' =>
      have hih := ih (fun b hb => hbs b (List.mem_cons_of_mem _ hb))
        (fun b hb => hbs' b (List.mem_cons_of_mem _ hb))
      simp [hw.byte_iff, hih, and_assoc]

theorem feedString_map_append (s : String) (rest : List ω) :
    (feedString s).map write ++ rest =
      (s.toList.flatMap String.utf8EncodeChar).map (fun b => write (.byte b)) ++
        write (.byte 0xff) :: rest := by
  simp [feedString, List.map_flatMap, Function.comp_def]

theorem tells_feedString (hw : Piece.ToldApart write) (s : String) :
    Tells (fun s => (feedString s).map write) id s := by
  intro t rest rest'
  have hmark : ∀ s : String, ∀ b ∈ s.toList.flatMap String.utf8EncodeChar, b ≠ 0xff := by
    intro s b hb
    obtain ⟨c, -, hc⟩ := List.mem_flatMap.1 hb
    exact ne_mark_of_mem_utf8EncodeChar hc
  rw [feedString_map_append, feedString_map_append, bytes_append_iff hw (hmark s) (hmark t)]
  refine and_congr_left' ⟨eq_of_bytes_eq, ?_⟩
  rintro rfl
  rfl

/-! ### Lengths and lists -/

theorem tells_feedLength (hw : Piece.ToldApart write) (n : Option Nat) :
    Tells (fun n => (feedLength n).map write) id n := by
  intro m rest rest'
  cases n <;> cases m <;> simp [feedLength, hw.choice_iff, hw.number_iff]

/-- A list says its length in front of its elements, so it is told by them. -/
theorem tells_list (hw : Piece.ToldApart write) {α β : Type} {feed : α → List ω} {view : α → β}
    {l : List α} (h : ∀ x ∈ l, Tells feed view x) :
    Tells (fun l => write (.size l.length) :: l.flatMap feed) (List.map view) l := by
  intro l' rest rest'
  rw [List.cons_append, List.cons_append, List.cons.injEq, hw.size_iff]
  by_cases hlength : l.length = l'.length
  · rw [flatMap_append_iff h hlength]
    simp [hlength]
  · have hview : l.map view ≠ l'.map view := by
      intro hmap
      exact hlength (by simpa using congrArg List.length hmap)
    simp [hlength, hview]

/-! ### Trees -/

/-- An expression is told by its feed up to the full names inside. Two different forms part at the
choices in front of them. -/
theorem Expr.tells_feed (hw : Piece.ToldApart write) (e : Expr Symbol) :
    Tells (fun e : Expr Symbol => e.feed.map write) (map Symbol.identity) e := by
  induction e using induct with
  | nominal a =>
    intro e' rest rest'
    cases e' <;> simp [feed, map, Symbol.feed, hw.choice_iff, hw.identity_iff]
  | app a as ih =>
    intro e' rest rest'
    cases e' with
    | app b bs =>
      have has := tells_list hw ih bs rest rest'
      simp only [List.cons_append] at has
      simp [feed, Symbol.feed, feedList_eq, List.map_flatMap, hw.identity_iff, has, and_assoc]
    | _ => simp [feed, map, hw.choice_iff]
  | array c n ih =>
    intro e' rest rest'
    cases e' with
    | array d m =>
      have hlength := tells_feedLength hw n m rest rest'
      have hc := (ih d _ _).trans (and_congr_right' hlength)
      simpa [feed, map, and_assoc] using hc
    | _ => simp [feed, map, hw.choice_iff]
  | freeVar x =>
    intro e' rest rest'
    cases e' with
    | freeVar y =>
      have hx := tells_feedString hw x y rest rest'
      simpa [feed, map] using hx
    | _ => simp [feed, map, hw.choice_iff]
  | anything =>
    intro e' rest rest'
    cases e' <;> simp [feed, map, hw.choice_iff]
  | subtypeOf b ih =>
    intro e' rest rest'
    cases e' with
    | subtypeOf b' =>
      -- behind the upper bound it says that there is no lower one
      have hb := ih b' (write (.choice 0) :: rest) (write (.choice 0) :: rest')
      simpa [feed, map] using hb
    | _ => simp [feed, map, hw.choice_iff]
  | supertypeOf b ih =>
    intro e' rest rest'
    cases e' with
    | supertypeOf b' =>
      have hb := ih b' rest rest'
      simpa [feed, map] using hb
    | _ => simp [feed, map, hw.choice_iff]

/-- A descriptor is told by its feed up to the full names inside. -/
theorem Descriptor.tells_feed (hw : Piece.ToldApart write) (d : Descriptor Symbol) :
    Tells (fun d : Descriptor Symbol => d.feed.map write) (map Symbol.identity) d := by
  induction d using induct with
  | node a ds ih =>
    intro d' rest rest'
    obtain ⟨b, es⟩ := d'
    have hds := tells_list hw ih es rest rest'
    simp only [List.cons_append] at hds
    simp [feed, Symbol.feed, feedList_eq, List.map_flatMap, hw.identity_iff, hds, and_assoc]

end Feeds

/-! ### Tables of keys -/

/-- Where equal keys have equal hashes, to look among the keys with the right hash is to look among
all of them. -/
theorem Dictionary.contains_eq_any_hash {κ β η : Type} [BEq κ] [DecidableEq η] {hash : κ → η}
    (h : ∀ a b, (a == b) = true → hash a = hash b) (key : κ) (s : Dictionary κ β) :
    s.contains key = s.entries.any fun e => decide (hash e.1 = hash key) && e.1 == key := by
  refine congrArg s.entries.any (funext fun e => ?_)
  cases hkey : e.1 == key with
  | true => simp [h e.1 key hkey]
  | false => simp

/-- **Hashing agrees with equality** for values that feed a hash function like this. -/
structure HashAgrees {α : Type} [BEq α] (feed : α → List Piece) : Prop where
  /-- Equal values feed the same, and no feed begins that of another value. -/
  pieces : ∀ x y rest rest', feed x ++ rest = feed y ++ rest' ↔ (x == y) = true ∧ rest = rest'
  /-- So it is where only the values of the pieces are handed on. -/
  values : ∀ x y rest rest', (feed x).map Piece.value ++ rest = (feed y).map Piece.value ++ rest' ↔
    (x == y) = true ∧ rest = rest'
  /-- A key is found among the keys with its hash, whatever the hash function is. -/
  lookup : ∀ {β η : Type} [DecidableEq η] (hash : List Piece → η) (s : Dictionary α β) (key : α),
    s.contains key =
      s.entries.any fun e => decide (hash (feed e.1) = hash (feed key)) && e.1 == key
  /-- Equal keys share one entry: what is put in under the one is there under the other. -/
  oneEntry : ∀ {β : Type} (s : Dictionary α β) (x y : α) (u v : β), (x == y) = true →
    ((s.insert x u).insert y v).size = (s.insert x u).size ∧ (s.insert x u).contains y = true ∧
      ((s.insert x u).insert y v).find? x = some v

theorem hashAgrees_of_tells {α β : Type} [BEq α] {feed : α → List Piece} {view : α → β}
    (hview : ∀ x y, (x == y) = true ↔ view x = view y)
    (h : ∀ {ω : Type} {write : Piece → ω}, Piece.ToldApart write →
      ∀ x, Tells (fun x => (feed x).map write) view x) : HashAgrees feed := by
  have hpieces : ∀ x y rest rest',
      feed x ++ rest = feed y ++ rest' ↔ (x == y) = true ∧ rest = rest' := by
    intro x y rest rest'
    rw [hview]
    simpa using h Piece.toldApart_id x y rest rest'
  have : PartialEquivBEq α :=
    { symm := fun hxy => (hview _ _).2 ((hview _ _).1 hxy).symm
      trans := fun hxy hyz => (hview _ _).2 (((hview _ _).1 hxy).trans ((hview _ _).1 hyz)) }
  refine ⟨hpieces, ?values, ?lookup, ?oneEntry⟩
  case values =>
    intro x y rest rest'
    rw [hview]
    exact h Piece.toldApart_value x y rest rest'
  case lookup =>
    intro β η _ hash s key
    have hhash : ∀ x y, (x == y) = true → hash (feed x) = hash (feed y) := by
      intro x y hxy
      have hfeed := (hpieces x y [] []).2 ⟨hxy, rfl⟩
      rw [List.append_nil, List.append_nil] at hfeed
      rw [hfeed]
    exact Dictionary.contains_eq_any_hash hhash key s
  case oneEntry =>
    intro β s x y u v hxy
    have hcontains := Dictionary.contains_insert_of_beq hxy u s
    refine ⟨?_, hcontains, Dictionary.find?_insert_of_beq (BEq.symm hxy) v _⟩
    rw [Dictionary.size_insert, hcontains, if_pos rfl]

/-- **Hashing agrees with equality in both directions.** Two descriptors, or two expressions, feed a hash
function the same exactly when they are equal under `==`, whatever their full names are, and no feed
goes on to become that of another value. Hence equal values share one entry of a table. -/
theorem hashing_agrees_with_equality :
    HashAgrees Descriptor.feed ∧ HashAgrees Expr.feed :=
  ⟨hashAgrees_of_tells Descriptor.beq_iff fun hw d => d.tells_feed hw,
    hashAgrees_of_tells Expr.beq_iff fun hw e => e.tells_feed hw⟩

/-- The same symbols in the same order, as `A<B, C>` and as `A<B<C>>`. -/
example :
    let leaf (n : Nat) : Descriptor Symbol := .node ⟨.numbered n, ""⟩ []
    let flat : Descriptor Symbol := .node ⟨.numbered 0, ""⟩ [leaf 1, leaf 2]
    let deep : Descriptor Symbol := .node ⟨.numbered 0, ""⟩ [.node ⟨.numbered 1, ""⟩ [leaf 2]]
    flat.feed.map Piece.value ≠ deep.feed.map Piece.value := by
  decide

end TypeShape
