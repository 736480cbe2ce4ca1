import TypeShape.Text.Graphic

/-!
# Quoted text

A text between quotation marks, as the debug form writes it. Quotation marks and backslashes get a
backslash; the line feed, the carriage return, the tab and the null character have a letter of their
own; every other character that is not graphic is written by its number. Main statement: an escaped
character is never empty, so no character is lost.
-/

namespace TypeShape.Text

/-- The number of a character between `\u` braces, in lower-case hexadecimal digits. -/
def codePoint (c : Char) : List Char :=
  ['\\', 'u', '\x7b'] ++ Nat.toDigits 16 c.toNat ++ ['\x7d']

/-- A character as it stands inside quotation marks. -/
def escape (c : Char) : List Char :=
  if c == '"' then ['\\', '"']
  else if c == '\\' then ['\\', '\\']
  else if c == '\n' then ['\\', 'n']
  else if c == '\r' then ['\\', 'r']
  else if c == '\t' then ['\\', 't']
  else if c.toNat == 0 then ['\\', '0']
  else if isGraphic c then [c]
  else codePoint c

/-- A text between quotation marks. -/
def quote (s : List Char) : List Char := '"' :: (s.flatMap escape ++ ['"'])

theorem escape_ne_nil (c : Char) : escape c ≠ [] := by
  unfold escape codePoint
  repeat' split
  all_goals simp

@[simp] theorem quote_nil : quote [] = ['"', '"'] := rfl

end TypeShape.Text
