import TypeShape.Text.Pattern.CharClass
import TypeShape.Text.Pattern.Group

/-!
# Patterns

The grammar of the regular expressions that a field of a log record may be tested with. Matching is
not needed here: a pattern is only told from a text that is none.

* `Reading.step?`: one part of a pattern, with the groups that are open at a place. Main statement:
  `step?_suffix`, the text behind the part is left as it stands.
* `Pattern.depth?` reads a pattern from left to right and gives the number of constructions that
  stand inside one another in it. Main statement: `finish?_eq_of_length_lt`, a number above the count
  of characters bounds nothing.
* `isPattern`: whether a text is a pattern that is not nested too deep.
-/

namespace TypeShape.Text.Pattern

structure Item where
  depth : Nat
  /-- It can be repeated, which flags cannot. -/
  isRepeatable : Bool

/-- A group up to the place that is read, or the pattern outside all groups. -/
structure OpenGroup where
  /-- The modes to go back to behind the group. -/
  before : Modes
  /-- The depth of the deepest of the alternatives that are finished, if there are any. -/
  alternatives : Option Nat
  /-- The items of the current alternative, the latest first. -/
  items : List Item

namespace OpenGroup

def fresh (before : Modes) : OpenGroup := ⟨before, none, []⟩

def add (g : OpenGroup) (item : Item) : OpenGroup := { g with items := item :: g.items }

def alternativeDepth (g : OpenGroup) : Nat := depthAround (g.items.map Item.depth)

def depth (g : OpenGroup) : Nat :=
  match g.alternatives with
  | none => g.alternativeDepth
  | some deepest => 1 + max deepest g.alternativeDepth

def next (g : OpenGroup) : OpenGroup :=
  ⟨g.before, some (max (g.alternatives.getD 0) g.alternativeDepth), []⟩

/-- Repeats the latest item, if there is one that can be repeated. -/
def repeated? (g : OpenGroup) : Option OpenGroup :=
  match g.items with
  | ⟨depth, true⟩ :: items => some { g with items := ⟨depth + 1, true⟩ :: items }
  | _ => none

end OpenGroup

/-- A pattern up to the place that is read. -/
structure Reading where
  modes : Modes
  /-- The innermost group. -/
  group : OpenGroup
  /-- The groups around it, from the inside. -/
  around : List OpenGroup
  /-- The names that groups have taken. -/
  names : List (List Char)

namespace Reading

def start : Reading := ⟨{}, .fresh {}, [], []⟩

/-- Adds an item that can be repeated. -/
def add (r : Reading) (depth : Nat) : Reading := { r with group := r.group.add ⟨depth, true⟩ }

/-- Goes on inside a group or behind flags. -/
def opened? (r : Reading) : Opening → Option Reading
  | .flags after => some { r with modes := after, group := r.group.add ⟨0, false⟩ }
  | .group none inside =>
    some { r with modes := inside, group := .fresh r.modes, around := r.group :: r.around }
  | .group (some name) inside =>
    if r.names.contains name then none
    else some ⟨inside, .fresh r.modes, r.group :: r.around, name :: r.names⟩

def closed? (r : Reading) : Option Reading :=
  match r.around with
  | [] => none
  | outer :: around =>
    some ⟨r.group.before, outer.add ⟨1 + r.group.depth, true⟩, around, r.names⟩

/-- Goes on behind an operator that repeats; it may be followed by a question mark. -/
def repeated? (r : Reading) (rest : List Char) : Option (Reading × List Char) :=
  r.group.repeated?.map fun g =>
    ({ r with group := g },
      match rest with
      | '?' :: rest => rest
      | _ => rest)

/-- Goes on behind a part of the pattern that starts with a given character. A brace would start a
counted repetition, which no pattern here can end; a point in a pattern of bytes would match bytes
that are no character. -/
def step? (r : Reading) (c : Char) (rest : List Char) : Option (Reading × List Char) :=
  match c with
  | '(' =>
    (opening? r.modes rest).bind fun (opening, rest) =>
      (r.opened? opening).map fun r => (r, rest)
  | ')' => r.closed?.map fun r => (r, rest)
  | '|' => some ({ r with group := r.group.next }, rest)
  | '[' => (class? r.modes rest).map fun (depth, rest) => (r.add depth, rest)
  | '?' => r.repeated? rest
  | '*' => r.repeated? rest
  | '+' => r.repeated? rest
  | '\x7b' => none
  | '\\' =>
    match escape? r.modes rest with
    | some (e, rest) => if e.isAllowed r.modes then some (r.add 0, rest) else none
    | none => none
  | '.' => if r.modes.bytes then none else some (r.add 0, rest)
  | '^' => some (r.add 0, rest)
  | '$' => some (r.add 0, rest)
  | _ => if r.modes.allows c false then some (r.add 0, rest) else none

theorem repeated?_suffix {r r' : Reading} {s rest : List Char}
    (h : r.repeated? s = some (r', rest)) : rest <:+ s := by
  obtain ⟨g, -, hg⟩ := Option.map_eq_some_iff.1 h
  simp only [Prod.mk.injEq] at hg
  obtain ⟨-, rfl⟩ := hg
  split
  · exact List.suffix_cons _ _
  · exact List.suffix_refl s

theorem step?_suffix {r r' : Reading} {c : Char} {s rest : List Char}
    (h : r.step? c s = some (r', rest)) : rest <:+ s := by
  unfold step? at h
  split at h
  case h_1 =>
    obtain ⟨⟨opening, behind⟩, hopening, hopened⟩ := Option.bind_eq_some_iff.1 h
    obtain ⟨_, -, hr⟩ := Option.map_eq_some_iff.1 hopened
    cases hr
    exact opening?_suffix hopening
  case h_2 =>
    obtain ⟨_, -, hr⟩ := Option.map_eq_some_iff.1 h
    cases hr
    exact List.suffix_refl s
  case h_4 =>
    obtain ⟨_, hclass, hr⟩ := Option.map_eq_some_iff.1 h
    cases hr
    exact (class?_behind hclass).suffix
  case h_5 | h_6 | h_7 => exact repeated?_suffix h
  case h_8 => cases h
  case h_9 =>
    split at h
    next hescape =>
      split at h <;> cases h
      exact (escape?_behind hescape).suffix
    · cases h
  case h_10 | h_13 =>
    split at h <;> cases h
    exact List.suffix_refl s
  all_goals
    cases h
    exact List.suffix_refl s

/-- Reads to the end, and gives the depth of the pattern. The number bounds the count of its
parts. -/
def finish? : Nat → Reading → List Char → Option Nat
  | 0, _, _ => none
  | n + 1, r, s =>
    match r.modes.skip s with
    | [] => if r.around.isEmpty then some r.group.depth else none
    | c :: rest => (r.step? c rest).bind fun (r, rest) => finish? n r rest

/-- The number is no bound where it is above the count of characters, as every part has one. -/
theorem finish?_eq_of_length_lt {n k : Nat} {r : Reading} {s : List Char} (hn : s.length < n)
    (hk : s.length < k) : finish? n r s = finish? k r s := by
  induction n generalizing k r s with
  | zero => omega
  | succ n ih =>
    obtain ⟨k, rfl⟩ : ∃ j, k = j + 1 := ⟨k - 1, by omega⟩
    have hskip := (r.modes.skip_suffix s).length_le
    unfold finish?
    split
    · rfl
    next c cs hs =>
      rw [hs, List.length_cons] at hskip
      cases hstep : r.step? c cs with
      | none => rfl
      | some next =>
        have hrest := (step?_suffix hstep).length_le
        exact ih (by omega) (by omega)

end Reading

def depth? (s : List Char) : Option Nat := Reading.finish? (s.length + 1) .start s

/-- How deep a pattern may be nested. -/
def deepest : Nat := 250

end Pattern

def isPattern (s : List Char) : Bool :=
  match Pattern.depth? s with
  | some depth => depth ≤ Pattern.deepest
  | none => false

end TypeShape.Text
