import TypeShape.Text.Alphanumeric

/-!
# Paths inside type names

A path is a run of segments joined by double colons, as in `alloc::vec::Vec`. This file cuts a
qualified type name down to its path and to its short name.

* `pathOf`: the name without its argument list, where what stands before the first `<` is a path;
  any other name (a tuple, a reference, a function pointer) is kept whole.
* `shortNameOf`: the last segment of such a path; in any other name every path is shortened to its
  last segment, which is the work of `shorten`.
* `shorten` runs the machine `Scan` over the text. The machine keeps the segment it is reading apart
  from what is settled, and a double colon drops that segment. Main statements:
  `length_rest_of_step`, every step leaves less to read; `rest_after`, as many steps as there are
  characters finish the run.
-/

namespace TypeShape.Text

/-! ### Characters of a path -/

/-- Letters and numbers of any script, and the underscore. -/
def isIdentifierChar (c : Char) : Bool := isAlphanumeric c || c == '_'

/-- A non-empty text of identifier characters and colons. -/
def isPath (s : List Char) : Bool := !s.isEmpty && s.all fun c => isIdentifierChar c || c == ':'

theorem isIdentifierChar_colon : isIdentifierChar ':' = false := by decide

/-! ### The last segment -/

/-- What follows the last double colon, if there is one. -/
def afterLastSeparator : List Char → Option (List Char)
  | [] => none
  | c :: rest =>
    match afterLastSeparator rest with
    | some segment => some segment
    | none =>
      match c, rest with
      | ':', ':' :: segment => some segment
      | _, _ => none

/-- The last segment of a path: what follows the last double colon, or the whole text. -/
def lastSegment (s : List Char) : List Char := (afterLastSeparator s).getD s

@[simp] theorem lastSegment_nil : lastSegment [] = [] := rfl

/-! ### Shortening -/

/-- A shortening in progress. -/
structure Scan where
  /-- What is settled, the latest character first. -/
  settled : List Char
  /-- The identifier characters read since then, the latest first. -/
  segment : List Char
  /-- What is still to be read. -/
  rest : List Char

namespace Scan

def start (s : List Char) : Scan := ⟨[], [], s⟩

/-- The text written so far. -/
def written (st : Scan) : List Char := (st.segment ++ st.settled).reverse

/-- A double colon drops the current segment, an identifier character extends it, and any other
character settles it. -/
def step : Scan → Option Scan
  | ⟨_, _, []⟩ => none
  | ⟨settled, _, ':' :: ':' :: rest⟩ => some ⟨settled, [], rest⟩
  | ⟨settled, segment, c :: rest⟩ =>
    if isIdentifierChar c then some ⟨settled, c :: segment, rest⟩
    else some ⟨c :: (segment ++ settled), [], rest⟩

/-- The state after a number of steps, or the last state if the text ends before. -/
def after : Nat → Scan → Scan
  | 0, st => st
  | n + 1, st =>
    match st.step with
    | none => st
    | some next => after n next

theorem length_rest_of_step {st next : Scan} (h : st.step = some next) :
    next.rest.length < st.rest.length := by
  unfold step at h
  split at h
  · cases h
  · cases h
    simp only [List.length_cons]
    omega
  · split at h <;> cases h <;> simp

/-- As many steps as there are characters left read the whole text. -/
theorem rest_after {n : Nat} {st : Scan} (h : st.rest.length ≤ n) : (after n st).rest = [] := by
  induction n generalizing st with
  | zero => simpa [after] using h
  | succ n ih =>
    unfold after
    split
    next hs =>
      unfold step at hs
      split at hs
      · rfl
      · cases hs
      · split at hs <;> cases hs
    next next hs =>
      have := length_rest_of_step hs
      exact ih (by omega)

end Scan

/-- Drops the leading segments of every path in a text. -/
def shorten (s : List Char) : List Char := (Scan.after s.length (Scan.start s)).written

@[simp] theorem shorten_nil : shorten [] = [] := rfl

/-! ### Path and short name of a qualified name -/

/-- What stands before the first `<`. -/
def headOf (fullName : List Char) : List Char := fullName.takeWhile (· != '<')

/-- The path of a qualified name, or the whole name if it does not start with a path. -/
def pathOf (fullName : List Char) : List Char :=
  if isPath (headOf fullName) then headOf fullName else fullName

/-- The last segment of the path of a qualified name, or the whole name with its paths shortened. -/
def shortNameOf (fullName : List Char) : List Char :=
  if isPath (headOf fullName) then lastSegment (headOf fullName) else shorten fullName

end TypeShape.Text
