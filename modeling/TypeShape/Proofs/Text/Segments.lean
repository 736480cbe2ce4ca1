import TypeShape.Proofs.Text.ArgumentList
import TypeShape.Proofs.Text.ColonRuns

/-!
# Paths by their segments

A path is put together from segments, each a run of identifier characters or the segment that stands
for a closure. A run in front of a double colon goes with it. A closure ends with a mark, and what a
mark settles stays: so the short name of a path keeps every closure on its way.

* `IsSegment s` — `s` is a segment of a path;
* `shorten_joined`: what a path is shortened to, from its segments;
* `Symbol.toList_name_of_evenColonRuns`: where the short name of a symbol is its shortened full name.

Main statement: `name_keeps_closures`.
-/

namespace TypeShape

namespace Text

/-- The segment that stands for a closure. -/
def closureSegment : String := "\x7b\x7bclosure\x7d\x7d"

/-- **A segment of a path**: a run of identifier characters, or the segment of a closure. -/
inductive IsSegment : String → Prop where
  | run {s : String} (nonempty : s ≠ "") (identifier : ∀ c ∈ s.toList, isIdentifierChar c = true) :
    IsSegment s
  | closure : IsSegment closureSegment

theorem isSegment_iff {s : String} :
    IsSegment s ↔ (s ≠ "" ∧ s.toList.all isIdentifierChar = true) ∨ s = closureSegment := by
  constructor
  · rintro (⟨nonempty, identifier⟩ | _)
    · exact Or.inl ⟨nonempty, List.all_eq_true.2 identifier⟩
    · exact Or.inr rfl
  · rintro (⟨nonempty, identifier⟩ | rfl)
    · exact .run nonempty (List.all_eq_true.1 identifier)
    · exact .closure

instance : DecidablePred IsSegment := fun _ => decidable_of_iff' _ isSegment_iff

/-- Segments joined by double colons. -/
def joined (front : List String) (last : String) : String :=
  String.intercalate "::" (front ++ [last])

/-! ### One segment -/

theorem ne_closureSegment_of_identifier {s : String}
    (h : ∀ c ∈ s.toList, isIdentifierChar c = true) : s ≠ closureSegment := by
  rintro rfl
  have hbrace := h '\x7b' (by decide +kernel)
  revert hbrace
  decide

theorem shorten_closureSegment_append (rest : List Char) :
    shorten (closureSegment.toList ++ rest) = closureSegment.toList ++ shorten rest := by
  have hlast : closureSegment.toList = "\x7b\x7bclosure\x7d".toList ++ ['\x7d'] := by decide +kernel
  have hself : shorten closureSegment.toList = closureSegment.toList := by decide +kernel
  calc
    shorten (closureSegment.toList ++ rest) = shorten closureSegment.toList ++ shorten rest := by
      rw [hlast]
      exact shorten_concat_append (by decide) rest
    _ = closureSegment.toList ++ shorten rest := by rw [hself]

namespace IsSegment

variable {s : String} {c : Char}

/-- A character that is in no identifier and not in the segment of a closure is in no segment. -/
theorem notMem (h : IsSegment s) (hc : isIdentifierChar c = false)
    (hclosure : c ∉ closureSegment.toList) : c ∉ s.toList := by
  cases h with
  | run _ identifier =>
    intro hmem
    rw [identifier c hmem] at hc
    cases hc
  | closure => exact hclosure

theorem colon_notMem (h : IsSegment s) : ':' ∉ s.toList :=
  h.notMem isIdentifierChar_colon (by decide +kernel)

theorem bracket_notMem (h : IsSegment s) : '<' ∉ s.toList :=
  h.notMem (by decide) (by decide +kernel)

theorem shorten_eq_self (h : IsSegment s) : shorten s.toList = s.toList :=
  Text.shorten_eq_self fun hsep => h.colon_notMem (hsep.subset (List.mem_cons_self ..))

end IsSegment

/-! ### Segments joined by double colons -/

section Joined

variable {front : List String} {last : String}

theorem toList_joined_nil (last : String) : (joined [] last).toList = last.toList := by
  rw [joined, String.toList_intercalate, List.nil_append, List.map_singleton,
    List.intercalate_singleton]

theorem toList_joined_cons (s : String) (front : List String) (last : String) :
    (joined (s :: front) last).toList = s.toList ++ ':' :: ':' :: (joined front last).toList := by
  rw [joined, joined, String.toList_intercalate, String.toList_intercalate]
  cases front <;> simp [List.intercalate_cons_cons]

theorem bracket_notMem_joined (hfront : ∀ s ∈ front, IsSegment s) (hlast : IsSegment last) :
    '<' ∉ (joined front last).toList := by
  induction front with
  | nil =>
    rw [toList_joined_nil]
    exact hlast.bracket_notMem
  | cons s front ih =>
    have hs := (hfront s (List.mem_cons_self ..)).bracket_notMem
    have hrest := ih fun s hs => hfront s (List.mem_cons_of_mem _ hs)
    simp [toList_joined_cons, hs, hrest]

theorem evenColonRuns_joined (hfront : ∀ s ∈ front, IsSegment s) (hlast : IsSegment last) :
    EvenColonRuns (joined front last).toList := by
  induction front with
  | nil =>
    rw [toList_joined_nil, ← List.append_nil last.toList,
      evenColonRuns_append_iff hlast.colon_notMem, ← pairedColons_iff]
    rfl
  | cons s front ih =>
    have hs := (hfront s (List.mem_cons_self ..)).colon_notMem
    rw [toList_joined_cons, evenColonRuns_append_iff hs, evenColonRuns_separator_iff]
    exact ih fun s hs => hfront s (List.mem_cons_of_mem _ hs)

/-- Of the segments in front of the last one, a shortening keeps the closures. -/
theorem shorten_joined (hfront : ∀ s ∈ front, IsSegment s) (hlast : IsSegment last) :
    shorten (joined front last).toList =
      (front.filter (· = closureSegment)).flatMap String.toList ++ last.toList := by
  induction front with
  | nil =>
    rw [toList_joined_nil]
    exact hlast.shorten_eq_self
  | cons s front ih =>
    have hrest := ih fun s hs => hfront s (List.mem_cons_of_mem _ hs)
    rw [toList_joined_cons]
    cases hfront s (List.mem_cons_self ..) with
    | run _ identifier =>
      have hrun := ne_closureSegment_of_identifier identifier
      rw [shorten_run_separator identifier, hrest, List.filter_cons_of_neg (by simpa using hrun)]
    | closure =>
      rw [shorten_closureSegment_append, List.filter_cons_of_pos (by simp), List.flatMap_cons,
        List.append_assoc, ← hrest]
      exact congrArg (closureSegment.toList ++ ·) shortenBehind_separator

end Joined

end Text

/-! ### Symbols -/

namespace Symbol

variable {a : Symbol}

/-- Nothing is cut off a full name without a bracket. -/
theorem path_eq_fullName_of_bracket_notMem (h : '<' ∉ a.fullName.toList) : a.path = a.fullName :=
  path_eq_fullName_iff.2 (Text.pathOf_eq_self_iff.2 fun _ => h)

theorem toList_name_of_evenColonRuns (hcolons : Text.EvenColonRuns a.fullName.toList)
    (hbracket : '<' ∉ a.fullName.toList) : a.name.toList = Text.shorten a.fullName.toList := by
  have hpath : a.text .full = a.fullName.toList := Text.pathOf_eq_self_iff.2 fun _ => hbracket
  rw [name, String.toList_ofList, ← shorten_text_full hcolons, hpath]

end Symbol

/-- **The short name of a path keeps its closures.** Whatever its segments are, the short name of a path
is its last segment behind all the closures in front of it; so it is the last segment alone exactly
where no closure stands in front of that. -/
theorem name_keeps_closures (a : Symbol) (front : List String) (last : String)
    (hfront : ∀ s ∈ front, Text.IsSegment s) (hlast : Text.IsSegment last)
    (ha : a.fullName = Text.joined front last) :
    a.path = a.fullName ∧
    a.name = String.join (front.filter (· = Text.closureSegment)) ++ last ∧
    (a.name = last ↔ Text.closureSegment ∉ front) := by
  have hbracket : '<' ∉ a.fullName.toList := by
    rw [ha]
    exact Text.bracket_notMem_joined hfront hlast
  have hcolons : Text.EvenColonRuns a.fullName.toList := by
    rw [ha]
    exact Text.evenColonRuns_joined hfront hlast
  have hname : a.name.toList =
      (front.filter (· = Text.closureSegment)).flatMap String.toList ++ last.toList := by
    rw [Symbol.toList_name_of_evenColonRuns hcolons hbracket, ha, Text.shorten_joined hfront hlast]
  refine ⟨Symbol.path_eq_fullName_of_bracket_notMem hbracket, ?_, ?_⟩
  · refine String.toList_inj.1 ?_
    rw [hname, String.toList_append, String.toList_join]
  · have hclosure : Text.closureSegment.toList ≠ [] := by decide +kernel
    rw [← String.toList_inj, hname, List.append_left_eq_self, List.flatMap_eq_nil_iff]
    constructor
    · intro h hmem
      exact hclosure (h _ (List.mem_filter.2 ⟨hmem, by simp⟩))
    · intro h s hs
      obtain ⟨hmem, hs⟩ := List.mem_filter.1 hs
      obtain rfl : s = Text.closureSegment := by simpa using hs
      exact absurd hmem h

/-- Two closures, one inside the other, stay in front of a type that is declared in the inner one. -/
theorem name_keeps_closures_of_local :
    let front := ["m", "f", Text.closureSegment, "größer", Text.closureSegment]
    let a : Symbol :=
      ⟨.numbered 0, "m::f::\x7b\x7bclosure\x7d\x7d::größer::\x7b\x7bclosure\x7d\x7d::Local_1"⟩
    (∀ s ∈ front, Text.IsSegment s) ∧ Text.IsSegment "Local_1" ∧
      a.fullName = Text.joined front "Local_1" ∧ a.path = a.fullName ∧
      a.name = Text.closureSegment ++ Text.closureSegment ++ "Local_1" ∧ a.name ≠ "Local_1" := by
  intro front a
  have hfront : ∀ s ∈ front, Text.IsSegment s := by decide +kernel
  have hlast : Text.IsSegment "Local_1" := by decide +kernel
  have ha : a.fullName = Text.joined front "Local_1" := by decide +kernel
  obtain ⟨hpath, hname, hlocal⟩ := name_keeps_closures a front "Local_1" hfront hlast ha
  refine ⟨hfront, hlast, ha, hpath, ?_, fun h => hlocal.1 h (by simp [front])⟩
  rw [hname]
  decide +kernel

/-- A type that is declared in a closure is not named by the last segment of its path. -/
theorem name_of_local_is_no_segment :
    let segments := ["m", "f", Text.closureSegment, "Local"]
    let a : Symbol := ⟨.numbered 0, "m::f::\x7b\x7bclosure\x7d\x7d::Local"⟩
    (∀ s ∈ segments, Text.IsSegment s) ∧ a.fullName = String.intercalate "::" segments ∧
      segments.getLast? = some "Local" ∧ a.name = "\x7b\x7bclosure\x7d\x7dLocal" ∧
      a.name ≠ "Local" := by
  intro segments a
  refine ⟨?_, ?_, ?_, ?_, ?_⟩ <;> decide +kernel

end TypeShape
