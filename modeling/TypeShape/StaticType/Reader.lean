import TypeShape.StaticType.Basic

/-!
# Reading a written type

A static type may be given as it is written in a program: `i32`, `HashMap<String, [u8; 4]>`,
`[str]`, `()`, `dyn Any + Send`. The text is cut into words and marks, blanks aside, and these are
read from left to right.

* `lexemes`: the words and marks of a text.
* `StaticType.read?`: the type that a text denotes, if it is the written form of one.
-/

namespace TypeShape

/-- A piece of a written type. -/
inductive Lexeme where
  /-- A run of identifier characters. -/
  | word (letters : List Char)
  /-- Any other character. -/
  | mark (c : Char)
  deriving DecidableEq

/-- Puts a character in front of lexemes: it joins a word it touches. -/
def Lexeme.addChar (c : Char) (later : List Lexeme) : List Lexeme :=
  if Text.isIdentifierChar c then
    match later with
    | .word letters :: later => .word (c :: letters) :: later
    | _ => .word [c] :: later
  else .mark c :: later

/-- The words and marks of a text, without the blanks. -/
def lexemes (s : List Char) : List Lexeme :=
  (s.foldr Lexeme.addChar []).filter fun x => x != .mark ' '

/-- The number that a word of decimal digits denotes. -/
def number? (letters : List Char) : Option Nat :=
  if !letters.isEmpty && letters.all Char.isDigit then
    some (letters.foldl (fun n c => 10 * n + (c.toNat - '0'.toNat)) 0)
  else none

namespace StaticType

/-- Reads what may follow `dyn Any`. -/
def readMarker : List Lexeme → Marker × List Lexeme
  | .mark '+' :: .word ['S', 'e', 'n', 'd'] :: .mark '+' :: .word ['S', 'y', 'n', 'c'] :: rest =>
    (.sendSync, rest)
  | .mark '+' :: .word ['S', 'e', 'n', 'd'] :: rest => (.send, rest)
  | rest => (.plain, rest)

mutual
/-- Reads one type; the first argument bounds the nesting. -/
def readType : Nat → List Lexeme → Option (StaticType × List Lexeme)
  | 0, _ => none
  | n + 1, input =>
    match input with
    | .mark '(' :: .mark ')' :: rest => some (.plain "()", rest)
    | .mark '[' :: rest =>
      match readType n rest with
      | some (c, .mark ']' :: rest) => some (.slice c, rest)
      | some (c, .mark ';' :: .word letters :: .mark ']' :: rest) =>
        (number? letters).map fun k => (.array c k, rest)
      | _ => none
    | .word ['d', 'y', 'n'] :: .word ['A', 'n', 'y'] :: rest =>
      some (.dynAny (readMarker rest).1, (readMarker rest).2)
    | .word letters :: .mark '<' :: rest =>
      match readType n rest with
      | some (first, rest) =>
        (readOthers n rest).map fun (others, rest) =>
          (.generic (String.ofList letters) first others, rest)
      | none => none
    | .word letters :: rest => some (.plain (String.ofList letters), rest)
    | _ => none
/-- Reads the arguments after the first, up to the closing bracket. -/
def readOthers : Nat → List Lexeme → Option (List StaticType × List Lexeme)
  | 0, _ => none
  | n + 1, input =>
    match input with
    | .mark '>' :: rest => some ([], rest)
    | .mark ',' :: rest =>
      match readType n rest with
      | some (t, rest) => (readOthers n rest).map fun (others, rest) => (t :: others, rest)
      | none => none
    | _ => none
end

/-- The type that a text denotes. Every level of nesting takes a lexeme, so their number bounds the
nesting. -/
def read? (written : String) : Option StaticType :=
  let input := lexemes written.toList
  match readType (input.length + 1) input with
  | some (t, []) => some t
  | _ => none

end StaticType

end TypeShape
