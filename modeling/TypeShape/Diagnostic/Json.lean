/-!
# JSON values and their text

The values that diagnostics are made of, with fields kept in order, and two ways to write them: the
compact form has no blanks, the pretty form puts every item on a line of its own, two blanks further
in for every level.
-/

namespace TypeShape

/-- A JSON value; the fields of an object keep their order. -/
inductive Json where
  | null
  | number (n : Nat)
  | string (s : String)
  | array (items : List Json)
  | object (fields : List (String × Json))

namespace Json

/-- A character as it stands inside a JSON string: quotation marks, backslashes and controls below
the blank are escaped. -/
def escape (c : Char) : List Char :=
  if c == '"' then ['\\', '"']
  else if c == '\\' then ['\\', '\\']
  else if c == '\x08' then ['\\', 'b']
  else if c == '\x0c' then ['\\', 'f']
  else if c == '\n' then ['\\', 'n']
  else if c == '\r' then ['\\', 'r']
  else if c == '\t' then ['\\', 't']
  else if c.toNat < 0x20 then
    ['\\', 'u', '0', '0', Nat.digitChar (c.toNat / 16), Nat.digitChar (c.toNat % 16)]
  else [c]

/-- A JSON string in front of a text. -/
def stringOnto (s : String) (rest : List Char) : List Char :=
  '"' :: (s.toList.flatMap escape ++ '"' :: rest)

/-! ### The compact form -/

mutual
/-- A value in compact form, in front of a text. -/
def renderOnto : Json → List Char → List Char
  | .null, rest => ['n', 'u', 'l', 'l'] ++ rest
  | .number n, rest => Nat.toDigits 10 n ++ rest
  | .string s, rest => stringOnto s rest
  | .array [], rest => '[' :: ']' :: rest
  | .array (j :: js), rest => '[' :: renderOnto j (itemsOnto js (']' :: rest))
  | .object [], rest => '\x7b' :: '\x7d' :: rest
  | .object ((k, j) :: fs), rest =>
    '\x7b' :: stringOnto k (':' :: renderOnto j (fieldsOnto fs ('\x7d' :: rest)))
/-- The items after the first, in front of a text. -/
def itemsOnto : List Json → List Char → List Char
  | [], rest => rest
  | j :: js, rest => ',' :: renderOnto j (itemsOnto js rest)
/-- The fields after the first, in front of a text. -/
def fieldsOnto : List (String × Json) → List Char → List Char
  | [], rest => rest
  | (k, j) :: fs, rest => ',' :: stringOnto k (':' :: renderOnto j (fieldsOnto fs rest))
end

/-- The compact form of a value. -/
def text (j : Json) : List Char := renderOnto j []

def render (j : Json) : String := String.ofList j.text

/-! ### The pretty form -/

/-- A line break and the blanks of a level, in front of a text. -/
def breakOnto (level : Nat) (rest : List Char) : List Char :=
  '\n' :: (List.replicate (2 * level) ' ' ++ rest)

mutual
/-- A value in pretty form at a level, in front of a text. -/
def prettyOnto (level : Nat) : Json → List Char → List Char
  | .null, rest => ['n', 'u', 'l', 'l'] ++ rest
  | .number n, rest => Nat.toDigits 10 n ++ rest
  | .string s, rest => stringOnto s rest
  | .array [], rest => '[' :: ']' :: rest
  | .array (j :: js), rest =>
    '[' :: breakOnto (level + 1)
      (prettyOnto (level + 1) j (prettyItemsOnto (level + 1) js (breakOnto level (']' :: rest))))
  | .object [], rest => '\x7b' :: '\x7d' :: rest
  | .object ((k, j) :: fs), rest =>
    '\x7b' :: breakOnto (level + 1) (stringOnto k (':' :: ' ' ::
      prettyOnto (level + 1) j
        (prettyFieldsOnto (level + 1) fs (breakOnto level ('\x7d' :: rest)))))
def prettyItemsOnto (level : Nat) : List Json → List Char → List Char
  | [], rest => rest
  | j :: js, rest =>
    ',' :: breakOnto level (prettyOnto level j (prettyItemsOnto level js rest))
def prettyFieldsOnto (level : Nat) : List (String × Json) → List Char → List Char
  | [], rest => rest
  | (k, j) :: fs, rest =>
    ',' :: breakOnto level (stringOnto k (':' :: ' ' ::
      prettyOnto level j (prettyFieldsOnto level fs rest)))
end

def pretty (j : Json) : String := String.ofList (prettyOnto 0 j [])

end Json

end TypeShape
