/-!
# Dictionaries

A dictionary keeps a value for each of its keys. Keys are told apart by `==` alone: to put a value
under a key that equals one already there replaces the value and keeps the old key. A set is a
dictionary whose values say nothing. Main statements: what `find?` answers after `insert`, under a
key equal to the one put in (`find?_insert_of_beq`) and under any other (`find?_insert_of_not_beq`),
and how `insert` and `erase` change the size.
-/

namespace TypeShape

/-- Values by key, in the order in which the keys came. -/
structure Dictionary (κ β : Type) where
  entries : List (κ × β)

namespace Dictionary

variable {κ β : Type} [BEq κ]

/-- No key has a value. -/
def empty : Dictionary κ β := ⟨[]⟩

def size (d : Dictionary κ β) : Nat := d.entries.length

/-- The keys, in the order in which they came. -/
def keys (d : Dictionary κ β) : List κ := d.entries.map (·.1)

def find? (key : κ) (d : Dictionary κ β) : Option β :=
  (d.entries.find? fun e => e.1 == key).map (·.2)

def contains (key : κ) (d : Dictionary κ β) : Bool := d.entries.any fun e => e.1 == key

/-- Puts a value under a key of some entries, behind them if none has the key. -/
def insertEntry (key : κ) (value : β) : List (κ × β) → List (κ × β)
  | [] => [(key, value)]
  | e :: es => if e.1 == key then (e.1, value) :: es else e :: insertEntry key value es

/-- Puts a value under a key. -/
def insert (key : κ) (value : β) (d : Dictionary κ β) : Dictionary κ β :=
  ⟨insertEntry key value d.entries⟩

def erase (key : κ) (d : Dictionary κ β) : Dictionary κ β :=
  ⟨d.entries.eraseP fun e => e.1 == key⟩

theorem contains_eq_isSome_find? (key : κ) (d : Dictionary κ β) :
    d.contains key = (d.find? key).isSome := by
  rw [Bool.eq_iff_iff]
  simp [contains, find?]

theorem find?_insert_of_beq [PartialEquivBEq κ] {a b : κ} (h : (a == b) = true) (value : β)
    (d : Dictionary κ β) : (d.insert a value).find? b = some value := by
  obtain ⟨entries⟩ := d
  simp only [insert, find?]
  induction entries with
  | nil => simp [insertEntry, h]
  | cons e es ih =>
    rw [insertEntry]
    split
    next ha =>
      -- the key that came first stays, and it equals the second key as well
      have hb : (e.1 == b) = true := BEq.trans ha h
      simp [hb]
    next ha =>
      have hb : (e.1 == b) = false := by
        refine Bool.eq_false_iff.2 fun hb => ha ?_
        exact BEq.trans hb (BEq.symm h)
      simpa [List.find?_cons, hb] using ih

theorem contains_insert_of_beq [PartialEquivBEq κ] {a b : κ} (h : (a == b) = true) (value : β)
    (d : Dictionary κ β) : (d.insert a value).contains b = true := by
  rw [contains_eq_isSome_find?, find?_insert_of_beq h]
  rfl

theorem find?_insert_of_not_beq [PartialEquivBEq κ] {a b : κ} (h : (a == b) = false) (value : β)
    (d : Dictionary κ β) : (d.insert a value).find? b = d.find? b := by
  obtain ⟨entries⟩ := d
  simp only [insert, find?]
  induction entries with
  | nil => simp [insertEntry, h]
  | cons e es ih =>
    rw [insertEntry]
    split
    next ha =>
      have hb : (e.1 == b) = false := by
        refine Bool.eq_false_iff.2 fun hb => Bool.eq_false_iff.1 h ?_
        exact BEq.trans (BEq.symm ha) hb
      simp [hb]
    next =>
      rw [List.find?_cons, List.find?_cons]
      split
      · rfl
      · exact ih

theorem length_insertEntry (key : κ) (value : β) (es : List (κ × β)) :
    (insertEntry key value es).length =
      if es.any fun e => e.1 == key then es.length else es.length + 1 := by
  induction es with
  | nil => simp [insertEntry]
  | cons e es ih =>
    unfold insertEntry
    by_cases h : e.1 == key
    · simp [h]
    · simp only [h, List.any_cons, Bool.false_or, List.length_cons, ih, Bool.false_eq_true,
        if_false]
      split <;> rfl

theorem size_insert (key : κ) (value : β) (d : Dictionary κ β) :
    (d.insert key value).size = if d.contains key then d.size else d.size + 1 :=
  length_insertEntry key value d.entries

theorem size_erase (key : κ) (d : Dictionary κ β) :
    (d.erase key).size = if d.contains key then d.size - 1 else d.size := by
  obtain ⟨entries⟩ := d
  simp only [erase, size, contains, List.length_eraseP]
  rfl

end Dictionary

end TypeShape
