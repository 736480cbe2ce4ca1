import TypeShape.Text.Alphabetic
import TypeShape.Text.Pattern.Modes

/-!
# Groups of a pattern

What an opening parenthesis introduces: a group, which may have a name or modes of its own, or flags
for what follows. Main statements: `opening?_suffix`, the text behind it is left as it stands;
`isGroupName_of_opening?`, a group takes no other name than one that groups may have.
-/

namespace TypeShape.Text.Pattern

inductive Opening where
  /-- A group, with its name and the modes inside it. -/
  | group (name : Option (List Char)) (inside : Modes)
  /-- Flags, with the modes that they lead to. -/
  | flags (after : Modes)

/-- Names of groups start with a letter or an underscore; behind them numbers, points and brackets
may follow. -/
def isGroupName : List Char → Bool
  | [] => false
  | c :: cs =>
    (c == '_' || isAlphabetic c) &&
      cs.all fun c => c == '_' || c == '.' || c == '[' || c == ']' || isAlphanumeric c

/-- Flags are letters, each at most once, around at most one hyphen, which something follows. -/
def areFlags (s : List Char) : Bool :=
  s.all (fun c => ['i', 'm', 's', 'U', 'u', 'x', 'R', '-'].contains c) && decide s.Nodup &&
    s.getLast? != some '-'

def groupName? (m : Modes) (s : List Char) : Option (Opening × List Char) :=
  let name := s.takeWhile (· != '>')
  match s.dropWhile (· != '>') with
  | _ :: rest => if isGroupName name then some (.group (some name) m, rest) else none
  | [] => none

/-- Reads flags: up to a colon those of a group, up to a parenthesis those of what follows. -/
def groupFlags? (m : Modes) (s : List Char) : Option (Opening × List Char) :=
  let flags := s.takeWhile fun c => c != ':' && c != ')'
  if !areFlags flags then none
  else
    match s.dropWhile fun c => c != ':' && c != ')' with
    | ':' :: rest => some (.group none (m.switch flags), rest)
    | _ :: rest => if flags.isEmpty then none else some (.flags (m.switch flags), rest)
    | [] => none

variable {m inside : Modes} {s rest name : List Char} {opening : Opening}

theorem groupName?_suffix (h : groupName? m s = some (opening, rest)) : rest <:+ s := by
  unfold groupName? at h
  dsimp only at h
  split at h
  next hdrop =>
    split at h <;> cases h
    exact (List.suffix_cons _ _).trans (hdrop ▸ List.dropWhile_suffix _)
  · cases h

theorem groupFlags?_suffix (h : groupFlags? m s = some (opening, rest)) : rest <:+ s := by
  unfold groupFlags? at h
  dsimp only at h
  split at h
  · cases h
  · split at h
    next hdrop =>
      cases h
      exact (List.suffix_cons _ _).trans (hdrop ▸ List.dropWhile_suffix _)
    next hdrop =>
      split at h <;> cases h
      exact (List.suffix_cons _ _).trans (hdrop ▸ List.dropWhile_suffix _)
    · cases h

theorem isGroupName_of_groupName?
    (h : groupName? m s = some (.group (some name) inside, rest)) : isGroupName name = true := by
  unfold groupName? at h
  dsimp only at h
  split at h
  · split at h
    next hname =>
      cases h
      exact hname
    · cases h
  · cases h

theorem groupFlags?_ne_named (m inside : Modes) (s rest name : List Char) :
    groupFlags? m s ≠ some (.group (some name) inside, rest) := by
  intro h
  unfold groupFlags? at h
  dsimp only at h
  split at h
  · cases h
  · split at h
    · cases h
    · split at h <;> cases h
    · cases h

def opening? (m : Modes) (s : List Char) : Option (Opening × List Char) :=
  match m.skip s with
  | '?' :: 'P' :: '<' :: rest => groupName? m rest
  | '?' :: '<' :: rest => groupName? m rest
  | '?' :: rest => groupFlags? m rest
  | rest => some (.group none m, rest)

theorem opening?_suffix (h : opening? m s = some (opening, rest)) : rest <:+ s := by
  have hskip := m.skip_suffix s
  unfold opening? at h
  split at h
  next hs =>
    rw [hs] at hskip
    exact ((groupName?_suffix h).trans (List.suffix_append ['?', 'P', '<'] _)).trans hskip
  next hs =>
    rw [hs] at hskip
    exact ((groupName?_suffix h).trans (List.suffix_append ['?', '<'] _)).trans hskip
  next hs =>
    rw [hs] at hskip
    exact ((groupFlags?_suffix h).trans (List.suffix_cons '?' _)).trans hskip
  · cases h
    exact hskip

theorem isGroupName_of_opening?
    (h : opening? m s = some (.group (some name) inside, rest)) : isGroupName name = true := by
  unfold opening? at h
  split at h
  · exact isGroupName_of_groupName? h
  · exact isGroupName_of_groupName? h
  · exact absurd h (groupFlags?_ne_named _ _ _ _ _)
  · cases h

end TypeShape.Text.Pattern
