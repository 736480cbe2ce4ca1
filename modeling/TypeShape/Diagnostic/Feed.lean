import TypeShape.Descriptor.Basic
import TypeShape.Position

/-!
# What a value feeds to a hash function

A hash function sees a value as a sequence of pieces: the identity of every symbol, the number of
elements in front of a list, the choice of constructor in front of its parts, and the bytes of a
variable's name with a mark at the end. Names of symbols are not fed. Main statement: `feedList_eq`,
a list feeds its elements in order.
-/

namespace TypeShape

/-- A piece that a hash function is fed. -/
inductive Piece where
  /-- The identity of a symbol. -/
  | identity (i : Identity)
  /-- The number of elements that follow. -/
  | size (n : Nat)
  /-- Which constructor the parts that follow belong to. -/
  | choice (n : Nat)
  | number (n : Nat)
  | byte (b : UInt8)
  deriving DecidableEq

/-- The bytes of a text and a mark that no text contains. -/
def feedString (s : String) : List Piece :=
  s.toList.flatMap (fun c => (String.utf8EncodeChar c).map .byte) ++ [.byte 0xff]

/-- A number that may be absent. -/
def feedLength : Option Nat → List Piece
  | none => [.choice 0]
  | some n => [.choice 1, .number n]

/-- A symbol feeds its identity only. -/
def Symbol.feed (a : Symbol) : List Piece := [.identity a.identity]

/-- A position feeds its depth and its indices. -/
def Position.feed (p : Position) : List Piece := .size p.depth :: p.indices.map .number

mutual
def Expr.feed : Expr Symbol → List Piece
  | .nominal a => .choice 0 :: a.feed
  | .app a as => .choice 1 :: (a.feed ++ .size as.length :: Expr.feedList as)
  | .array c n => .choice 2 :: (Expr.feed c ++ feedLength n)
  | .freeVar x => .choice 3 :: feedString x
  | .anything => [.choice 4, .choice 0, .choice 0]
  | .subtypeOf b => .choice 4 :: .choice 1 :: (Expr.feed b ++ [.choice 0])
  | .supertypeOf b => .choice 4 :: .choice 0 :: .choice 1 :: Expr.feed b
def Expr.feedList : List (Expr Symbol) → List Piece
  | [] => []
  | e :: es => Expr.feed e ++ Expr.feedList es
end

theorem Expr.feedList_eq (es : List (Expr Symbol)) : Expr.feedList es = es.flatMap Expr.feed := by
  induction es with
  | nil => rfl
  | cons e es ih => simp [Expr.feedList, ih]

mutual
def Descriptor.feed : Descriptor Symbol → List Piece
  | .node a ds => a.feed ++ .size ds.length :: Descriptor.feedList ds
def Descriptor.feedList : List (Descriptor Symbol) → List Piece
  | [] => []
  | d :: ds => Descriptor.feed d ++ Descriptor.feedList ds
end

theorem Descriptor.feedList_eq (ds : List (Descriptor Symbol)) :
    Descriptor.feedList ds = ds.flatMap Descriptor.feed := by
  induction ds with
  | nil => rfl
  | cons d ds ih => simp [Descriptor.feedList, ih]

end TypeShape
