import TypeShape.Text.Pattern.Escape

/-!
# Classes of a pattern

A class is a set of characters in brackets: characters, ranges, named classes and classes inside it,
joined by nothing or by one of three operators. Reading a class gives its depth, the number of
constructions that stand inside one another in it.

* `classPart?`: one part of a class. Main statement: `classPart?_behind`, a part has a character at
  least and leaves the text behind it as it stands.
* `class?`: a whole class. Main statements: `closeClass?_behind`, the same of a class up to its
  bracket; `closeClass?_eq_of_length_lt`, a number above the count of characters bounds nothing.
-/

namespace TypeShape.Text.Pattern

/-! ### Depth -/

/-- The depth of a construction around others; around a single one there is none. -/
def depthAround : List Nat → Nat
  | [] => 0
  | [depth] => depth
  | depths => 1 + depths.foldl max 0

/-- A class up to the place that is read. -/
structure OpenClass where
  /-- The depth of what stands in front of the last operator, if there is one. -/
  operands : Option Nat
  /-- The depths of the items read since then, the latest first. -/
  items : List Nat
  /-- Nothing but hyphens has been read. -/
  isFresh : Bool

namespace OpenClass

def fresh : OpenClass := ⟨none, [], true⟩

def depth (c : OpenClass) : Nat :=
  match c.operands with
  | none => depthAround c.items
  | some left => 1 + max left (depthAround c.items)

def add (c : OpenClass) (item : Nat) : OpenClass := ⟨c.operands, item :: c.items, false⟩

/-- Adds a hyphen that stands for itself, in front of all else. -/
def addHyphen (c : OpenClass) : OpenClass := { c with items := 0 :: c.items }

def operate (c : OpenClass) : OpenClass := ⟨some c.depth, [], false⟩

end OpenClass

/-! ### Items -/

variable {m : Modes} {s rest : List Char}

/-- The names of the classes that are written between colons. -/
def classNames : List String :=
  ["alnum", "alpha", "ascii", "blank", "cntrl", "digit", "graph", "lower", "print", "punct",
   "space", "upper", "word", "xdigit"]

/-- Reads a named class behind its bracket, and whether it is negated. -/
def namedClass? (s : List Char) : Option (Bool × List Char) :=
  match s with
  | ':' :: rest =>
    let negated := rest.head? == some '^'
    let name := if negated then rest.tail else rest
    if classNames.contains (String.ofList (name.takeWhile (· != ':'))) then
      match name.dropWhile (· != ':') with
      | ':' :: ']' :: rest => some (negated, rest)
      | _ => none
    else none
  | _ => none

theorem namedClass?_suffix {negated : Bool}
    (h : namedClass? s = some (negated, rest)) : rest <:+ s := by
  unfold namedClass? at h
  split at h
  next t =>
    dsimp only at h
    generalize hname : (if (t.head? == some '^') = true then t.tail else t) = name at h
    have hnameSuffix : name <:+ t := by
      rw [← hname]
      split
      · exact List.tail_suffix t
      · exact List.suffix_refl t
    split at h
    · split at h
      next closing hclosing =>
        cases h
        have hdrop : ':' :: ']' :: rest <:+ name := hclosing ▸ List.dropWhile_suffix _
        have hrest : rest <:+ ':' :: ']' :: rest :=
          (List.suffix_cons _ _).trans (List.suffix_cons _ _)
        exact ((hrest.trans hdrop).trans hnameSuffix).trans (List.suffix_cons _ _)
      · cases h
    · cases h
  · cases h

/-- Reads a character of a class, or a class that a letter stands for. -/
def classAtom? (m : Modes) : List Char → Option (Option Char × List Char)
  | [] => none
  | '\\' :: rest =>
    match escape? m rest with
    | some (.literal c _, rest) => if m.allowsInClass c then some (some c, rest) else none
    | some (.shorthand negated, rest) =>
      if m.allowsShorthand negated then some (none, rest) else none
    | _ => none
  | c :: rest => if m.allowsInClass c then some (some c, rest) else none

theorem classAtom?_behind {atom : Option Char}
    (h : classAtom? m s = some (atom, rest)) : Behind rest s := by
  unfold classAtom? at h
  split at h
  · cases h
  next behind =>
    split at h
    next hc =>
      split at h <;> cases h
      exact .trans_suffix (escape?_behind hc) (List.suffix_cons _ _)
    next hc =>
      split at h <;> cases h
      exact .trans_suffix (escape?_behind hc) (List.suffix_cons _ _)
    · cases h
  next c behind _ =>
    split at h <;> cases h
    exact .of_suffix c (List.suffix_refl _)

/-- Reads an item of a class: a range, if a hyphen follows that does not stand for itself. -/
def classItem? (m : Modes) (s : List Char) : Option (List Char) :=
  match classAtom? m s with
  | none => none
  | some (low, rest) =>
    match m.skip rest with
    | '-' :: behind =>
      if m.peek behind == some ']' || m.peek behind == some '-' then some ('-' :: behind)
      else
        match low, classAtom? m (m.skip behind) with
        | some low, some (some high, rest) => if low ≤ high then some rest else none
        | _, _ => none
    | rest => some rest

theorem classItem?_behind (h : classItem? m s = some rest) : Behind rest s := by
  unfold classItem? at h
  split at h
  · cases h
  next low rest' hlow =>
    have hlowBehind := classAtom?_behind hlow
    have hskip := m.skip_suffix rest'
    split at h
    next behind hhyphen =>
      rw [hhyphen] at hskip
      split at h
      · cases h
        exact .suffix_trans hskip hlowBehind
      · split at h
        next high rest'' hhigh =>
          split at h <;> cases h
          have hhighBehind := classAtom?_behind hhigh
          have hbehind := (m.skip_suffix behind).trans ((List.suffix_cons _ _).trans hskip)
          exact .suffix_trans (hhighBehind.suffix.trans hbehind) hlowBehind
        · cases h
    · cases h
      exact .suffix_trans hskip hlowBehind

inductive ClassPart where
  /-- A character, a range or a named class. -/
  | item
  /-- A hyphen in front of all else. -/
  | hyphen
  | opened
  | closed
  /-- An intersection, a difference or a symmetric difference. -/
  | operator

/-- Reads what follows the bracket of a class. A negated class of bytes would hold bytes that are no
character. -/
def openClass? (m : Modes) (s : List Char) : Option (List Char) :=
  match m.skip s with
  | '^' :: rest => if m.bytes then none else some rest
  | rest => some rest

theorem openClass?_suffix (h : openClass? m s = some rest) : rest <:+ s := by
  have hskip := m.skip_suffix s
  unfold openClass? at h
  split at h
  next behind hcaret =>
    split at h <;> cases h
    rw [hcaret] at hskip
    exact (List.suffix_cons _ _).trans hskip
  · cases h
    exact hskip

def classPart? (m : Modes) (c : OpenClass) (s : List Char) : Option (ClassPart × List Char) :=
  let item := (classItem? m s).map fun rest => (ClassPart.item, rest)
  match s with
  | '[' :: rest =>
    match namedClass? rest with
    | some (negated, rest) => if m.allowsNamed negated then some (.item, rest) else none
    | none => (openClass? m rest).map fun rest => (.opened, rest)
  | ']' :: rest =>
    if !(c.isFresh && c.items.isEmpty) then some (.closed, rest)
    else if m.allowsInClass ']' then some (.item, rest)
    else none
  | '-' :: rest =>
    if c.isFresh then if m.allowsInClass '-' then some (.hyphen, rest) else none
    else
      match rest with
      | '-' :: rest => some (.operator, rest)
      | _ => item
  | '&' :: '&' :: rest => some (.operator, rest)
  | '~' :: '~' :: rest => some (.operator, rest)
  | _ => item

theorem classPart?_behind {c : OpenClass} {part : ClassPart}
    (h : classPart? m c s = some (part, rest)) : Behind rest s := by
  have hitem : (classItem? m s).map (fun rest => (ClassPart.item, rest)) = some (part, rest) →
      Behind rest s := by
    intro hitem
    obtain ⟨_, hrest, hpart⟩ := Option.map_eq_some_iff.1 hitem
    cases hpart
    exact classItem?_behind hrest
  unfold classPart? at h
  dsimp only at h
  split at h
  case h_1 behind =>
    refine .of_suffix _ ?_
    split at h
    next hnamed =>
      split at h <;> cases h
      exact namedClass?_suffix hnamed
    · obtain ⟨_, hrest, hpart⟩ := Option.map_eq_some_iff.1 h
      cases hpart
      exact openClass?_suffix hrest
  case h_2 behind =>
    refine .of_suffix _ ?_
    split at h
    · cases h
      exact List.suffix_refl _
    · split at h <;> cases h
      exact List.suffix_refl _
  case h_3 behind =>
    split at h
    · split at h <;> cases h
      exact .of_suffix _ (List.suffix_refl _)
    · split at h
      · cases h
        exact .of_suffix _ (List.suffix_cons _ _)
      · exact hitem h
  case h_4 behind =>
    cases h
    exact .of_suffix _ (List.suffix_cons _ _)
  case h_5 behind =>
    cases h
    exact .of_suffix _ (List.suffix_cons _ _)
  case h_6 => exact hitem h

/-- Reads a class up to the bracket that closes it, and gives its depth. The first number bounds the
count of its parts; the list holds the classes around the one that is read. -/
def closeClass? (m : Modes) :
    Nat → OpenClass → List OpenClass → List Char → Option (Nat × List Char)
  | 0, _, _, _ => none
  | n + 1, c, around, s =>
    match classPart? m c (m.skip s) with
    | none => none
    | some (.item, rest) => closeClass? m n (c.add 0) around rest
    | some (.hyphen, rest) => closeClass? m n c.addHyphen around rest
    | some (.opened, rest) => closeClass? m n .fresh (c :: around) rest
    | some (.operator, rest) => closeClass? m n c.operate around rest
    | some (.closed, rest) =>
      match around with
      | [] => some (1 + c.depth, rest)
      | outer :: around => closeClass? m n (outer.add (1 + c.depth)) around rest

theorem closeClass?_behind {n depth : Nat} {c : OpenClass} {around : List OpenClass}
    (h : closeClass? m n c around s = some (depth, rest)) : Behind rest s := by
  induction n generalizing c around s with
  | zero => cases h
  | succ n ih =>
    unfold closeClass? at h
    split at h
    case h_1 => cases h
    case h_2 hpart | h_3 hpart | h_4 hpart | h_5 hpart =>
      exact .suffix_trans (ih h).suffix (classPart?_behind hpart).of_skip
    case h_6 hpart =>
      split at h
      · cases h
        exact (classPart?_behind hpart).of_skip
      · exact .suffix_trans (ih h).suffix (classPart?_behind hpart).of_skip

/-- The number is no bound where it is above the count of characters, as every part has one. -/
theorem closeClass?_eq_of_length_lt {n k : Nat} {c : OpenClass} {around : List OpenClass}
    (hn : s.length < n) (hk : s.length < k) :
    closeClass? m n c around s = closeClass? m k c around s := by
  induction n generalizing k c around s with
  | zero => omega
  | succ n ih =>
    obtain ⟨k, rfl⟩ : ∃ j, k = j + 1 := ⟨k - 1, by omega⟩
    have hgo : ∀ {part behind} (c' around'), classPart? m c (m.skip s) = some (part, behind) →
        closeClass? m n c' around' behind = closeClass? m k c' around' behind := by
      intro part behind c' around' hpart
      have hlength := (classPart?_behind hpart).of_skip.length_lt
      exact ih (by omega) (by omega)
    unfold closeClass?
    split
    case h_1 => rfl
    case h_2 hpart | h_3 hpart | h_4 hpart | h_5 hpart => exact hgo _ _ hpart
    case h_6 hpart =>
      split
      · rfl
      · exact hgo _ _ hpart

def class? (m : Modes) (s : List Char) : Option (Nat × List Char) :=
  (openClass? m s).bind fun rest => closeClass? m (rest.length + 1) .fresh [] rest

theorem class?_behind {depth : Nat} (h : class? m s = some (depth, rest)) : Behind rest s := by
  obtain ⟨_, hopen, hclose⟩ := Option.bind_eq_some_iff.1 h
  exact (closeClass?_behind hclose).trans_suffix (openClass?_suffix hopen)

end TypeShape.Text.Pattern
