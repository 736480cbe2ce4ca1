import TypeShape.Log.Record
import TypeShape.Text.Blank
import TypeShape.Text.Offset
import TypeShape.Text.Pattern

/-!
# Directives of a log filter

A directive says how much detail passes, and of which records: `debug`, `type_token=off`,
`type_token[{kind}]=trace`. It names a target or a level, then in brackets a span and, in
braces, a field, and last a level.

* `Directive.read?`: the directive that a text denotes.
* `Directive.concerns`: whether a directive speaks about a record. No record stands in a span, so a
  directive that names one, or that tests the value of a field, speaks about none.
* `Directive.yieldsTo`: which of two directives decides, if both speak about a record. Main
  statements: `yieldsTo_total` and `yieldsTo_trans`, it is an order of precedence.
-/

namespace TypeShape

/-- A test on a field: it is there and, if a value is given, has that value. -/
structure FieldTest where
  name : List Char
  /-- The pattern or the number that the value is compared with. -/
  value : Option (List Char)

/-- How much detail passes, and of which records. -/
structure Directive where
  /-- How the targets it speaks about start, unless it speaks about all. -/
  target : Option (List Char)
  /-- The span in which it applies, unless it applies everywhere. -/
  span : Option (List Char)
  /-- The test on the fields, if there is one. -/
  field : Option FieldTest
  /-- How much detail it lets pass; 0 is none. -/
  limit : Nat

/-! ### Levels -/

def limitNames : List (String × Nat) :=
  [("off", 0), ("error", Level.error.detail), ("warn", Level.warn.detail),
   ("info", Level.info.detail), ("debug", Level.debug.detail), ("trace", Level.trace.detail)]

/-- The number of a limit, which may have a plus sign and leading zeros. -/
def limitNumber? (s : List Char) : Option Nat :=
  let digits :=
    match s with
    | '+' :: rest => rest
    | _ => s
  if !digits.isEmpty && digits.all Char.isDigit then
    let n := digits.foldl (fun n c => 10 * n + (c.toNat - '0'.toNat)) 0
    if n ≤ Level.trace.detail then some n else none
  else none

/-- The limit that a text names, in letters of either case or by its number. -/
def limit? (s : List Char) : Option Nat :=
  match limitNumber? s with
  | some n => some n
  | none => (limitNames.find? fun l => l.1.toList == s.map Char.toLower).map (·.2)

/-! ### Field tests -/

/-- A decimal number without its sign: digits with a point among or beside them, and an exponent. -/
def isUnsignedDecimal (s : List Char) : Bool :=
  let whole := s.takeWhile Char.isDigit
  let rest := s.dropWhile Char.isDigit
  let fraction :=
    match rest with
    | '.' :: rest => rest.takeWhile Char.isDigit
    | _ => []
  let rest :=
    match rest with
    | '.' :: rest => rest.dropWhile Char.isDigit
    | _ => rest
  let exponent :=
    match rest with
    | 'e' :: '+' :: digits => some digits
    | 'e' :: '-' :: digits => some digits
    | 'e' :: digits => some digits
    | _ => none
  !(whole.isEmpty && fraction.isEmpty) &&
    match exponent with
    | some digits => !digits.isEmpty && digits.all Char.isDigit
    | none => rest.isEmpty

/-- A number that carries a plus sign. Any other number is a pattern too. -/
def isPositiveNumber (s : List Char) : Bool :=
  match s.map Char.toLower with
  | '+' :: rest =>
    ["inf", "infinity", "nan"].contains (String.ofList rest) || isUnsignedDecimal rest
  | _ => false

/-- Reads a test: a name and, behind an equals sign, a value, which ends before a second equals
sign. -/
def FieldTest.read? (s : List Char) : Option FieldTest :=
  match s, s.dropWhile (· != '=') with
  | [], _ => none
  | _, [] => some ⟨s, none⟩
  | _, _ :: rest =>
    let value := rest.takeWhile (· != '=')
    if isPositiveNumber value || Text.isPattern value then
      some ⟨s.takeWhile (· != '='), some value⟩
    else none

/-! ### Reading a directive -/

/-- Where the parts of a directive stand in its text. -/
structure DirectiveLayout where
  /-- Where the level or the target in front ends. -/
  headEnd : Nat
  /-- Where the name of the span starts and ends, if there are brackets. -/
  span : Option (Nat × Nat)
  /-- Where the field starts and ends, if there are braces. -/
  field : Option (Nat × Nat)
  /-- Where the level behind the equals sign starts. -/
  limitStart : Option Nat

namespace DirectiveLayout

/-- Finds the level behind the target and the brackets: nothing, or an equals sign in front of
it. -/
def close? (layout : DirectiveLayout) (offset : Nat) : List Char → Option DirectiveLayout
  | [] => some layout
  | '=' :: _ => some { layout with limitStart := some (offset + 1) }
  | _ => none

def find? (s : List Char) : Option DirectiveLayout :=
  let head := s.takeWhile fun c => c != '[' && c != '='
  let headEnd := Text.byteLength head
  match s.dropWhile fun c => c != '[' && c != '=' with
  | '[' :: rest =>
    let name := rest.takeWhile fun c => c != ']' && c != '\x7b'
    let nameStart := headEnd + 1
    let nameEnd := nameStart + Text.byteLength name
    match rest.dropWhile fun c => c != ']' && c != '\x7b' with
    | ']' :: rest => close? ⟨headEnd, some (nameStart, nameEnd), none, none⟩ (nameEnd + 1) rest
    | '\x7b' :: rest =>
      let fieldStart := nameEnd + 1
      let fieldEnd := fieldStart + Text.byteLength (rest.takeWhile (· != '\x7d'))
      match rest.dropWhile (· != '\x7d') with
      | '\x7d' :: ']' :: rest =>
        close? ⟨headEnd, some (nameStart, nameEnd), some (fieldStart, fieldEnd), none⟩
          (fieldEnd + 2) rest
      | _ => none
    | _ => none
  | rest => close? ⟨headEnd, none, none, none⟩ headEnd rest

end DirectiveLayout

namespace Directive

def plain (target : Option (List Char)) (limit : Nat) : Directive := ⟨target, none, none, limit⟩

def mayStart (c : Char) : Bool :=
  c == '[' || Text.isAlphanumeric c || c == '-' || c == ':' || c == '_'

/-- A lone word is a level or, if it names none, a target of which everything passes. -/
def ofWord (word : List Char) : Directive :=
  match limit? word with
  | some limit => plain none limit
  | none => plain (some word) Level.trace.detail

/-- The span that a directive names. Where a field follows, there need not be one. -/
def spanOf? (written : List Char) (layout : DirectiveLayout) : Option (Option (List Char)) :=
  match layout.span with
  | none => some none
  | some (start, stop) =>
    (Text.between? written start stop).map fun name =>
      if layout.field.isSome && name.isEmpty then none else some name

def fieldOf? (written : List Char) (layout : DirectiveLayout) : Option (Option FieldTest) :=
  match layout.field with
  | none => some none
  | some (start, stop) =>
    ((Text.between? written start stop).bind FieldTest.read?).map some

/-- The limit that a directive sets: everything passes, unless a level stands at the end. -/
def limitOf? (written : List Char) (layout : DirectiveLayout) : Option Nat :=
  match layout.limitStart with
  | none => some Level.trace.detail
  | some start =>
    match Text.from? written start with
    | none => none
    | some [] => some Level.trace.detail
    | some level => limit? level

def targetOf? (written : List Char) (layout : DirectiveLayout) : Option (Option (List Char)) :=
  if layout.headEnd == 0 then some none else (Text.between? written 0 layout.headEnd).map some

/-- The directive that a text denotes. Its parts are found in the text without the blanks at its
ends, but they are cut out of the whole text at the same offsets: blanks in front shift every
part. -/
def read? (written : List Char) : Option Directive :=
  match Text.trim written with
  | [] => none
  | c :: cs =>
    if !mayStart c then none
    else
      (DirectiveLayout.find? (c :: cs)).bind fun layout =>
        if layout.span.isNone && layout.limitStart.isNone then some (ofWord written)
        else
          (targetOf? written layout).bind fun target =>
            (spanOf? written layout).bind fun span =>
              (fieldOf? written layout).bind fun field =>
                (limitOf? written layout).map fun limit => ⟨target, span, field, limit⟩

/-! ### Which records -/

def matchesTarget (d : Directive) (target : List Char) : Bool :=
  match d.target with
  | none => true
  | some start => start.isPrefixOf target

def matchesFields (d : Directive) (fields : List (String × FieldValue)) : Bool :=
  match d.field with
  | none => true
  | some test => test.value.isNone && fields.any fun f => f.1.toList == test.name

def concerns (d : Directive) (record : LogRecord) : Bool :=
  d.span.isNone && d.matchesTarget record.target.toList && d.matchesFields record.fields

/-- How much detail a record stands for plays no part. -/
theorem concerns_congr (d : Directive) {record record' : LogRecord}
    (htarget : record'.target = record.target) (hfields : record'.fields = record.fields) :
    d.concerns record' = d.concerns record := by
  rw [concerns, htarget, hfields, concerns]

/-! ### Which of two -/

def targetLength (d : Directive) : Nat :=
  match d.target with
  | none => 0
  | some target => target.length

/-- Whether the field of one directive yields to that of another: no field yields to any, and an
earlier name to a later one. -/
def fieldYieldsTo (d e : Directive) : Bool :=
  match d.field, e.field with
  | none, _ => true
  | some _, none => false
  | some f, some g => !decide (g.name < f.name)

/-- Whether an earlier directive yields to a later one that speaks about the same record: the longer
target decides, then the field, and at last the order. -/
def yieldsTo (d e : Directive) : Bool :=
  d.targetLength < e.targetLength || (d.targetLength == e.targetLength && d.fieldYieldsTo e)

variable {d e f : Directive}

theorem fieldYieldsTo_total (d e : Directive) :
    d.fieldYieldsTo e = true ∨ e.fieldYieldsTo d = true := by
  unfold fieldYieldsTo
  cases d.field with
  | none => exact .inl rfl
  | some g =>
    cases e.field with
    | none => exact .inr rfl
    | some h =>
      have hnames : ¬ h.name < g.name ∨ ¬ g.name < h.name := List.le_total g.name h.name
      simpa only [Bool.not_eq_true', decide_eq_false_iff_not] using hnames

theorem fieldYieldsTo_trans (hde : d.fieldYieldsTo e = true) (hef : e.fieldYieldsTo f = true) :
    d.fieldYieldsTo f = true := by
  unfold fieldYieldsTo at *
  cases hd : d.field with
  | none => rfl
  | some g =>
    cases he : e.field with
    | none => simp [hd, he] at hde
    | some h =>
      cases hf : f.field with
      | none => simp [he, hf] at hef
      | some k =>
        simp only [hd, he, hf, Bool.not_eq_true', decide_eq_false_iff_not] at hde hef ⊢
        exact List.le_trans hde hef

theorem yieldsTo_iff : d.yieldsTo e = true ↔ d.targetLength < e.targetLength ∨
    d.targetLength = e.targetLength ∧ d.fieldYieldsTo e = true := by
  simp [yieldsTo]

theorem yieldsTo_total (d e : Directive) : d.yieldsTo e = true ∨ e.yieldsTo d = true := by
  rw [yieldsTo_iff, yieldsTo_iff]
  have hfield := fieldYieldsTo_total d e
  rcases Nat.lt_trichotomy d.targetLength e.targetLength with h | h | h
  · exact .inl (.inl h)
  · exact hfield.imp (fun hde => .inr ⟨h, hde⟩) fun hed => .inr ⟨h.symm, hed⟩
  · exact .inr (.inl h)

theorem yieldsTo_trans (hde : d.yieldsTo e = true) (hef : e.yieldsTo f = true) :
    d.yieldsTo f = true := by
  rw [yieldsTo_iff] at *
  rcases hde with hde | ⟨hde, hdeField⟩
  · exact .inl (by omega)
  · rcases hef with hef | ⟨hef, hefField⟩
    · exact .inl (by omega)
    · exact .inr ⟨hde.trans hef, fieldYieldsTo_trans hdeField hefField⟩

end Directive

end TypeShape
