import TypeShape.Proofs.Text.Shortening

/-!
# Runs of colons

A qualified name joins its segments by double colons, so its colons stand in runs of even length. In
such a name every double colon is found from either end, and a shortening reads a path just as far as
its last separator.

* `EvenColonRuns s` — every run of colons in `s` has an even length; `pairedColons_iff` decides it;
* `shorten_eq_lastSegment`: a path with such runs is shortened to its last segment.

Main statement: `Symbol.shorten_text_full`.
-/

namespace TypeShape

namespace Text

/-! ### Colons in runs of even length -/

/-- **Colons stand in runs of even length.** A run is as long as it can be: there is no colon right in
front of it or behind it. -/
def EvenColonRuns (s : List Char) : Prop :=
  ∀ u n v, s = u ++ (List.replicate n ':' ++ v) → u.getLast? ≠ some ':' → v.head? ≠ some ':' →
    n % 2 = 0

theorem evenColonRuns_cons_iff {c : Char} {s : List Char} (hc : c ≠ ':') :
    EvenColonRuns (c :: s) ↔ EvenColonRuns s := by
  constructor
  · intro h u n v hs hu hv
    refine h (c :: u) n v (by rw [hs, List.cons_append]) ?_ hv
    cases u with
    | nil => simpa using hc
    | cons x u => simpa using hu
  · intro h u n v hs hu hv
    cases u with
    | nil =>
      cases n with
      | zero => rfl
      | succ n => exact absurd (List.cons.inj hs).1 hc
    | cons x u =>
      refine h u n v (List.cons.inj hs).2 ?_ hv
      cases u with
      | nil => simp
      | cons y u => simpa using hu

theorem evenColonRuns_append_iff {s t : List Char} (hs : ':' ∉ s) :
    EvenColonRuns (s ++ t) ↔ EvenColonRuns t := by
  induction s with
  | nil => rfl
  | cons c s ih =>
    rw [List.mem_cons, not_or] at hs
    rw [List.cons_append, evenColonRuns_cons_iff (Ne.symm hs.1), ih hs.2]

theorem evenColonRuns_separator_iff {s : List Char} :
    EvenColonRuns (':' :: ':' :: s) ↔ EvenColonRuns s := by
  constructor
  · intro h u n v hs hu hv
    cases u with
    | nil =>
      have heven := h [] (n + 2) v (by rw [hs]; rfl) (by simp) hv
      omega
    | cons x u => exact h (':' :: ':' :: x :: u) n v (by rw [hs]; rfl) (by simpa using hu) hv
  · intro h u n v hs hu hv
    cases u with
    | nil =>
      match n with
      | 0 => rfl
      | 1 =>
        have hcolon : ':' :: s = v := (List.cons.inj hs).2
        exact absurd (by rw [← hcolon]; rfl) hv
      | n + 2 =>
        have heven := h [] n v (List.cons.inj (List.cons.inj hs).2).2 (by simp) hv
        omega
    | cons x u =>
      cases u with
      | nil => exact absurd (by rw [← (List.cons.inj hs).1]; rfl) hu
      | cons y u =>
        refine h u n v (List.cons.inj (List.cons.inj hs).2).2 ?_ hv
        cases u with
        | nil => simp
        | cons z u => simpa using hu

theorem not_evenColonRuns_of_single {s : List Char} (hs : s.head? ≠ some ':') :
    ¬ EvenColonRuns (':' :: s) := by
  intro h
  have heven := h [] 1 s rfl (by simp) hs
  omega

/-- Read from the left, colons stand in pairs. -/
def pairedColons : List Char → Bool
  | [] => true
  | ':' :: ':' :: s => pairedColons s
  | c :: s => c != ':' && pairedColons s

theorem pairedColons_cons {c : Char} {s : List Char} (hsep : ¬ (c = ':' ∧ s.head? = some ':')) :
    pairedColons (c :: s) = (c != ':' && pairedColons s) := by
  rw [pairedColons]
  rintro s' rfl rfl
  exact hsep ⟨rfl, rfl⟩

theorem pairedColons_iff {s : List Char} : pairedColons s = true ↔ EvenColonRuns s := by
  induction s using scan_induct with
  | nil =>
    refine iff_of_true rfl fun u n v hs _ _ => ?_
    have hlength := congrArg List.length hs
    simp only [List.length_append, List.length_replicate, List.length_nil] at hlength
    omega
  | separator s ih => rw [pairedColons, ih, evenColonRuns_separator_iff]
  | identifier c s hc ih =>
    have hcolon := ne_colon_of_isIdentifierChar hc
    rw [pairedColons_cons fun h => hcolon h.1, evenColonRuns_cons_iff hcolon, ← ih]
    simp [hcolon]
  | mark c s hc hsep ih =>
    rw [pairedColons_cons hsep]
    by_cases hcolon : c = ':'
    · subst hcolon
      exact iff_of_false (by simp) (not_evenColonRuns_of_single fun h => hsep ⟨rfl, h⟩)
    · rw [evenColonRuns_cons_iff hcolon, ← ih]
      simp [hcolon]

instance : DecidablePred EvenColonRuns := fun _ => decidable_of_iff _ pairedColons_iff

theorem EvenColonRuns.headOf {s : List Char} (h : EvenColonRuns s) : EvenColonRuns (headOf s) := by
  intro u n v hs hu hv
  -- the head ends where the first angle bracket stands, so no run goes on behind it
  have hsplit : s = u ++ (List.replicate n ':' ++ (v ++ s.dropWhile (· != '<'))) := by
    rw [← List.append_assoc (List.replicate n ':'), ← List.append_assoc u, ← hs]
    exact (List.takeWhile_append_dropWhile).symm
  refine h u n _ hsplit hu ?_
  cases v with
  | nil =>
    intro hcolon
    have hangle := List.head?_dropWhile_not (· != '<') s
    rw [List.nil_append] at hcolon
    rw [hcolon] at hangle
    simp at hangle
  | cons c v => exact hv

/-! ### The last segment of a path -/

theorem afterLastSeparator_cons {c : Char} {s : List Char}
    (hsep : ¬ (c = ':' ∧ s.head? = some ':')) :
    afterLastSeparator (c :: s) = afterLastSeparator s := by
  conv => lhs; unfold afterLastSeparator
  cases afterLastSeparator s with
  | some segment => rfl
  | none =>
    dsimp only
    split
    · exact absurd ⟨rfl, rfl⟩ hsep
    · rfl

theorem afterLastSeparator_separator (s : List Char) :
    afterLastSeparator (':' :: ':' :: s) = some ((afterLastSeparator (':' :: s)).getD s) := by
  conv => lhs; unfold afterLastSeparator
  cases afterLastSeparator (':' :: s) <;> rfl

/-- A path that begins with a colon begins with a double one, so the first separator is no other
text's last one. -/
theorem afterLastSeparator_separator_of_even {s : List Char} (h : EvenColonRuns s) :
    afterLastSeparator (':' :: ':' :: s) = some (lastSegment s) := by
  rw [afterLastSeparator_separator, lastSegment]
  by_cases hs : s.head? = some ':'
  · obtain ⟨t, rfl⟩ := List.head?_eq_some_iff.1 hs
    have ht : t.head? = some ':' :=
      Decidable.of_not_not fun hne => not_evenColonRuns_of_single hne h
    obtain ⟨t, rfl⟩ := List.head?_eq_some_iff.1 ht
    rw [afterLastSeparator_separator (':' :: t), afterLastSeparator_separator t]
    rfl
  · rw [afterLastSeparator_cons fun hsep => hs hsep.2]

theorem shortenBehind_eq_getD {segment s : List Char} (hs : ∀ c ∈ s, isPathChar c = true)
    (h : EvenColonRuns s) :
    shortenBehind segment s = (afterLastSeparator s).getD (segment.reverse ++ s) := by
  induction s using scan_induct generalizing segment with
  | nil => rw [shortenBehind_end, List.append_nil]; rfl
  | separator s ih =>
    have heven := evenColonRuns_separator_iff.1 h
    have hpath : ∀ c ∈ s, isPathChar c = true := fun c hc => hs c (by simp [hc])
    rw [shortenBehind_separator, ← shortenBehind_nil, ih hpath heven,
      afterLastSeparator_separator_of_even heven]
    rfl
  | identifier c s hc ih =>
    have hcolon := ne_colon_of_isIdentifierChar hc
    have heven := (evenColonRuns_cons_iff hcolon).1 h
    have hpath : ∀ c ∈ s, isPathChar c = true := fun c hc => hs c (List.mem_cons_of_mem _ hc)
    rw [shortenBehind_identifier hc, ih hpath heven, afterLastSeparator_cons fun hsep => hcolon hsep.1,
      List.reverse_cons, List.append_assoc, List.singleton_append]
  | mark c s hc hsep ih =>
    have hpath := hs c (List.mem_cons_self ..)
    obtain rfl : c = ':' := by simpa [isPathChar, hc] using hpath
    exact absurd h (not_evenColonRuns_of_single fun hcolon => hsep ⟨rfl, hcolon⟩)

/-- A path whose colons stand in runs of even length is shortened to its last segment. -/
theorem shorten_eq_lastSegment {s : List Char} (hs : ∀ c ∈ s, isPathChar c = true)
    (h : EvenColonRuns s) : shorten s = lastSegment s :=
  shortenBehind_eq_getD hs h

end Text

/-! ### Symbols -/

/-- Where colons stand in runs of even length, the short name of a symbol is its shortened path. -/
theorem Symbol.shorten_text_full {a : Symbol} (h : Text.EvenColonRuns a.fullName.toList) :
    Text.shorten (a.text .full) = a.text .short := by
  rw [text, text, Text.pathOf, Text.shortNameOf]
  by_cases hpath : Text.isPath (Text.headOf a.fullName.toList) = true
  · rw [if_pos hpath, if_pos hpath]
    exact Text.shorten_eq_lastSegment (Text.isPath_iff.1 hpath).2 h.headOf
  · rw [if_neg hpath, if_neg hpath]

end TypeShape
