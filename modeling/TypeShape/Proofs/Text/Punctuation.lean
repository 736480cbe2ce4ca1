import TypeShape.Proofs.Text.ArgumentList
import TypeShape.Proofs.Text.Shortening

/-!
# Punctuation outlives a shortening

The name of a tuple, an array, a reference or a function is punctuation around the names of other types.
What a shortening drops goes back to the last mark at most, so it never reaches over one: each component
is shortened by itself, and between them the punctuation stays as it is.

* `components`, `punctuation`: a text taken apart; `punctuate`: put together again;
* `shorten_punctuate`: parts with marks between them are shortened part by part;
* `punctuation_shorten`: no mark is lost, added or moved.

Main statement: `shortening_keeps_punctuation`.
-/

namespace TypeShape

namespace Text

variable {segment s : List Char}

/-! ### Components and punctuation -/

/-- A character of no path: neither an identifier character nor a colon. -/
def isPunctuation (c : Char) : Bool := !isPathChar c

/-- The punctuation of a text, in order. -/
def punctuation (s : List Char) : List Char := s.filter isPunctuation

/-- What stands in front of, between and behind the punctuation of a text. -/
def components (s : List Char) : List (List Char) := s.splitOnP isPunctuation

/-- Parts with the marks between them. -/
def punctuate (parts : List (List Char)) (marks : List Char) : List Char :=
  (List.zipWith (· ++ ·) parts (marks.map ([·]) ++ [[]])).flatten

theorem isPunctuation_iff {c : Char} :
    isPunctuation c = true ↔ isIdentifierChar c = false ∧ c ≠ ':' := by
  rw [isPunctuation, Bool.not_eq_true', isPathChar_eq_false_iff]

theorem punctuation_append (s t : List Char) :
    punctuation (s ++ t) = punctuation s ++ punctuation t :=
  List.filter_append ..

theorem punctuation_cons_of_isPathChar {c : Char} (hc : isPathChar c = true) (s : List Char) :
    punctuation (c :: s) = punctuation s := by
  refine List.filter_cons_of_neg ?_
  rw [isPunctuation, hc]
  decide

/-- There is no punctuation in a segment that is being read. -/
theorem punctuation_reverse_segment (h : ∀ c ∈ segment, isIdentifierChar c = true) :
    punctuation segment.reverse = [] := by
  refine List.filter_eq_nil_iff.2 fun c hc => ?_
  rw [isPunctuation, isPathChar_of_isIdentifierChar (h c (List.mem_reverse.1 hc))]
  decide

theorem punctuate_components (s : List Char) : punctuate (components s) (punctuation s) = s :=
  List.splitOnP_spec s

theorem punctuate_cons_nil (part : List Char) (parts : List (List Char)) :
    punctuate (part :: parts) [] = part := by
  simp [punctuate]

theorem punctuate_cons_cons (part : List Char) (parts : List (List Char)) (c : Char)
    (marks : List Char) :
    punctuate (part :: parts) (c :: marks) = part ++ c :: punctuate parts marks := by
  simp [punctuate]

/-! ### Shortening part by part -/

/-- Parts with marks between them are shortened part by part, whatever the parts are. -/
theorem shorten_punctuate {parts : List (List Char)} {marks : List Char}
    (hmarks : ∀ c ∈ marks, isPunctuation c = true) :
    shorten (punctuate parts marks) = punctuate (parts.map shorten) marks := by
  induction parts generalizing marks with
  | nil => rfl
  | cons part parts ih =>
    cases marks with
    | nil => rw [List.map_cons, punctuate_cons_nil, punctuate_cons_nil]
    | cons c marks =>
      obtain ⟨hc, hmarks⟩ := List.forall_mem_cons.1 hmarks
      have hmark := isPathChar_eq_false_iff.2 (isPunctuation_iff.1 hc)
      rw [List.map_cons, punctuate_cons_cons, punctuate_cons_cons, shorten_append_cons hmark,
        ih hmarks]

/-- A text is shortened component by component. -/
theorem shorten_eq_punctuate (s : List Char) :
    shorten s = punctuate ((components s).map shorten) (punctuation s) := by
  have hmarks : ∀ c ∈ punctuation s, isPunctuation c = true := fun c hc => (List.mem_filter.1 hc).2
  rw [← shorten_punctuate hmarks, punctuate_components]

theorem punctuation_shortenBehind (hsegment : ∀ c ∈ segment, isIdentifierChar c = true) :
    punctuation (shortenBehind segment s) = punctuation s := by
  have hcolon : isPathChar ':' = true := by decide
  induction s using scan_induct generalizing segment with
  | nil =>
    rw [shortenBehind_end]
    exact punctuation_reverse_segment hsegment
  | separator s ih =>
    rw [shortenBehind_separator, punctuation_cons_of_isPathChar hcolon,
      punctuation_cons_of_isPathChar hcolon]
    exact ih (by simp)
  | identifier c s hc ih =>
    rw [shortenBehind_identifier hc,
      punctuation_cons_of_isPathChar (isPathChar_of_isIdentifierChar hc)]
    exact ih (List.forall_mem_cons.2 ⟨hc, hsegment⟩)
  | mark c s hc hsep ih =>
    have hs : punctuation (shorten s) = punctuation s := ih (by simp)
    have hcons : ∀ t, punctuation (c :: t) = punctuation [c] ++ punctuation t :=
      punctuation_append [c]
    rw [shortenBehind_mark hc hsep, punctuation_append, punctuation_reverse_segment hsegment,
      List.nil_append, hcons (shorten s), hcons s, hs]

/-- No mark is lost, added or moved. -/
theorem punctuation_shorten (s : List Char) : punctuation (shorten s) = punctuation s :=
  punctuation_shortenBehind (by simp)

end Text

/-- **A shortening keeps the punctuation.** On both sides of a mark the texts are shortened by themselves.
So the punctuation of a text is that of the shortened one, in the same order, and a name that does
not start with a path is its punctuation around its components, each of them shortened by itself. -/
theorem shortening_keeps_punctuation :
    (∀ s t c, Text.isIdentifierChar c = false → c ≠ ':' →
      Text.shorten (s ++ c :: t) = Text.shorten s ++ c :: Text.shorten t) ∧
    (∀ s, Text.punctuation (Text.shorten s) = Text.punctuation s ∧
      Text.shorten s =
        Text.punctuate ((Text.components s).map Text.shorten) (Text.punctuation s)) ∧
    ∀ a : Symbol, ¬ a.PathNamed →
      a.name.toList =
        Text.punctuate ((Text.components a.fullName.toList).map Text.shorten)
          (Text.punctuation a.fullName.toList) := by
  refine ⟨?_, ?_, ?_⟩
  · intro s t c hc hcolon
    exact Text.shorten_append_cons (Text.isPathChar_eq_false_iff.2 ⟨hc, hcolon⟩) s t
  · intro s
    exact ⟨Text.punctuation_shorten s, Text.shorten_eq_punctuate s⟩
  · intro a ha
    rw [Symbol.toList_name_of_not_pathNamed ha]
    exact Text.shorten_eq_punctuate a.fullName.toList

/-- A pair of a path and a reference to an array: the paths are shortened one by one, between the same
marks as before. -/
theorem shortening_keeps_punctuation_of_pair :
    let a : Symbol := ⟨.numbered 0, "(größer::Ж,&[m::T;3])"⟩
    let front := "(größer::Ж".toList
    let rest := "&[m::T;3])".toList
    (Text.isIdentifierChar ',' = false ∧ ',' ≠ ':' ∧
      Text.shorten (front ++ ',' :: rest) = Text.shorten front ++ ',' :: Text.shorten rest) ∧
    (Text.punctuation a.fullName.toList = "(,&[;])".toList ∧
      Text.punctuation (Text.shorten a.fullName.toList) = "(,&[;])".toList) ∧
    ¬ a.PathNamed ∧ a.name.toList =
      Text.punctuate (["", "Ж", "", "", "T", "3", "", ""].map String.toList) "(,&[;])".toList := by
  intro a front rest
  obtain ⟨happend, hshorten, hname⟩ := shortening_keeps_punctuation
  have hc : Text.isIdentifierChar ',' = false := by decide
  have hcolon : ',' ≠ ':' := by decide
  have ha : ¬ a.PathNamed := by decide +kernel
  have hmarks : Text.punctuation a.fullName.toList = "(,&[;])".toList := by decide +kernel
  refine ⟨⟨hc, hcolon, happend front rest ',' hc hcolon⟩, ⟨hmarks, ?_⟩, ha, ?_⟩
  · rw [(hshorten a.fullName.toList).1, hmarks]
  · rw [hname a ha, hmarks]
    decide +kernel

end TypeShape
