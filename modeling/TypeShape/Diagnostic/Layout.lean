import TypeShape.Diagnostic.Encode

/-!
# Layouts on request

A caller asks for a rendering by a layout, written between braces: `{}` for the short form, `{:#}`
for the full form, `{:?}` and `{:#?}` for the debug form on one line or over several. A layout may
also hold an alignment, with or without a fill character, and a sign in front of the `#`, and a
zero, a width and a precision after it; they are accepted and change nothing. A `#` in front of an
alignment is a fill character.

* `Layout.read?`: the layout that a text denotes.
* `Layout.apply`: the rendering that a layout asks for.
-/

namespace TypeShape

/-- What of a layout has an effect. -/
structure Layout where
  /-- The form with more detail: full paths, or debug over several lines. -/
  alternate : Bool
  debug : Bool
  deriving DecidableEq

namespace Layout

/-- A character that says where to align. -/
def isAlignment (c : Char) : Bool := c == '<' || c == '^' || c == '>'

/-- Drops the alignment, with its fill character if there is one. -/
def dropAlignment : List Char → List Char
  | [] => []
  | [c] => if isAlignment c then [] else [c]
  | c :: d :: rest =>
    if isAlignment d then rest else if isAlignment c then d :: rest else c :: d :: rest

def dropSign : List Char → List Char
  | '+' :: rest => rest
  | '-' :: rest => rest
  | rest => rest

def dropPrecision : List Char → List Char
  | '.' :: rest => rest.dropWhile Char.isDigit
  | rest => rest

/-- What follows the `#`, and whether there is one. -/
def takeAlternate : List Char → Bool × List Char
  | '#' :: rest => (true, rest)
  | rest => (false, rest)

/-- The layout of a text after its colon. -/
def ofFlags? (flags : List Char) : Option Layout :=
  let (alternate, rest) := takeAlternate (dropSign (dropAlignment flags))
  match dropPrecision (rest.dropWhile Char.isDigit) with
  | [] => some ⟨alternate, false⟩
  | ['?'] => some ⟨alternate, true⟩
  | _ => none

/-- The layout that a text denotes. -/
def read? (written : String) : Option Layout :=
  match written.toList with
  | ['\x7b', '\x7d'] => some ⟨false, false⟩
  | '\x7b' :: ':' :: rest =>
    match rest.reverse with
    | '\x7d' :: flags => ofFlags? flags.reverse
    | _ => none
  | _ => none

def style (layout : Layout) : NameStyle := if layout.alternate then .full else .short

/-- The rendering that a layout asks for, given how the value renders in each style and its debug
form. -/
def apply (layout : Layout) (render : NameStyle → String) (outline : Outline) : String :=
  if layout.debug then
    if layout.alternate then outline.broken else outline.inline
  else render layout.style

end Layout

end TypeShape
