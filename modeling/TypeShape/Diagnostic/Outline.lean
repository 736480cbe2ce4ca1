import TypeShape.Text.Quoted

/-!
# Outlines

An outline is the debug form of a value before it is laid out: names with their parts, lists, and
texts in between. It is written on one line, or broken over lines, with every part on a line of its
own, four blanks further in for every level and followed by a comma. A name or a list without parts
stays on its line.

* `Outline.inline`: the form on one line.
* `Outline.broken`: the form over several lines. A line break inside a text keeps the level.
-/

namespace TypeShape

/-- The debug form of a value before it is laid out. -/
inductive Outline where
  /-- A text as it is. -/
  | text (content : String)
  /-- A name and its parts between parentheses. -/
  | tuple (name : String) (items : List Outline)
  /-- A name and its named parts between braces. -/
  | record (name : String) (fields : List (String × Outline))
  /-- Parts between square brackets. -/
  | list (items : List Outline)
  /-- An outline between two texts. -/
  | framed (before : String) (inner : Outline) (after : String)

namespace Outline

def quoted (s : String) : Outline := .text (String.ofList (Text.quote s.toList))

def number (n : Nat) : Outline := .text (String.ofList (Nat.toDigits 10 n))

/-- A value that may be absent. -/
def option : Option Outline → Outline
  | none => .text "None"
  | some inner => .tuple "Some" [inner]

/-! ### On one line -/

mutual
/-- An outline on one line, in front of a text. -/
def inlineOnto : Outline → List Char → List Char
  | .text s, rest => s.toList ++ rest
  | .tuple name [], rest => name.toList ++ rest
  | .tuple name (o :: os), rest =>
    name.toList ++ '(' :: inlineOnto o (inlineItemsOnto os (')' :: rest))
  | .record name [], rest => name.toList ++ rest
  | .record name ((k, o) :: fs), rest =>
    name.toList ++ [' ', '\x7b', ' '] ++ k.toList ++ ':' :: ' ' ::
      inlineOnto o (inlineFieldsOnto fs (' ' :: '\x7d' :: rest))
  | .list [], rest => '[' :: ']' :: rest
  | .list (o :: os), rest => '[' :: inlineOnto o (inlineItemsOnto os (']' :: rest))
  | .framed before inner after, rest => before.toList ++ inlineOnto inner (after.toList ++ rest)
/-- The items after the first, in front of a text. -/
def inlineItemsOnto : List Outline → List Char → List Char
  | [], rest => rest
  | o :: os, rest => ',' :: ' ' :: inlineOnto o (inlineItemsOnto os rest)
/-- The fields after the first, in front of a text. -/
def inlineFieldsOnto : List (String × Outline) → List Char → List Char
  | [], rest => rest
  | (k, o) :: fs, rest =>
    ',' :: ' ' :: (k.toList ++ ':' :: ' ' :: inlineOnto o (inlineFieldsOnto fs rest))
end

def inline (o : Outline) : String := String.ofList (inlineOnto o [])

/-! ### Over several lines -/

/-- The blanks of a level. -/
def indent (level : Nat) : List Char := List.replicate (4 * level) ' '

/-- A line break and the blanks of a level, in front of a text. -/
def breakOnto (level : Nat) (rest : List Char) : List Char := '\n' :: (indent level ++ rest)

/-- A text at a level: its own line breaks keep the level. -/
def textOnto (level : Nat) (s : String) (rest : List Char) : List Char :=
  s.toList.flatMap (fun c => if c == '\n' then '\n' :: indent level else [c]) ++ rest

mutual
/-- An outline over several lines at a level, in front of a text. -/
def brokenOnto (level : Nat) : Outline → List Char → List Char
  | .text s, rest => textOnto level s rest
  | .tuple name [], rest => textOnto level name rest
  | .tuple name (o :: os), rest =>
    textOnto level name ('(' ::
      brokenItemsOnto (level + 1) (o :: os) (breakOnto level (')' :: rest)))
  | .record name [], rest => textOnto level name rest
  | .record name (f :: fs), rest =>
    textOnto level name (' ' :: '\x7b' ::
      brokenFieldsOnto (level + 1) (f :: fs) (breakOnto level ('\x7d' :: rest)))
  | .list [], rest => '[' :: ']' :: rest
  | .list (o :: os), rest =>
    '[' :: brokenItemsOnto (level + 1) (o :: os) (breakOnto level (']' :: rest))
  | .framed before inner after, rest =>
    textOnto level before (brokenOnto level inner (textOnto level after rest))
/-- Items at a level, each on a line of its own, in front of a text. -/
def brokenItemsOnto (level : Nat) : List Outline → List Char → List Char
  | [], rest => rest
  | o :: os, rest => breakOnto level (brokenOnto level o (',' :: brokenItemsOnto level os rest))
/-- Fields at a level, each on a line of its own, in front of a text. -/
def brokenFieldsOnto (level : Nat) : List (String × Outline) → List Char → List Char
  | [], rest => rest
  | (k, o) :: fs, rest =>
    breakOnto level (textOnto level k (':' :: ' ' ::
      brokenOnto level o (',' :: brokenFieldsOnto level fs rest)))
end

def broken (o : Outline) : String := String.ofList (brokenOnto 0 o [])

end Outline

end TypeShape
