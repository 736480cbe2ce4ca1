import Mathlib.Algebra.GroupWithZero.Nat
import Mathlib.Algebra.Order.BigOperators.Group.List
import TypeShape.Text.Pattern

/-!
# How deep a pattern can be

Every construction of a pattern has a character of its own, so no more of them can stand inside one
another than there are characters. While a pattern is read, the constructions seen so far are paid for
by the characters that have been read; `weight` counts how many these are at least.

* `depthAround_le_sum`: what is put around several items is paid for by the items themselves;
* `closeClass?_depth_add_length_le`, `Reading.step?_weight_le`: what one part adds is no more than the
  characters it has; `Reading.finish?_le`, the same of all parts.

Main statements: `depth?_le_length`; `isPattern_of_length_le`, short texts are patterns as soon as they
can be read.
-/

namespace TypeShape.Text.Pattern

/-! ### Weights -/

theorem foldl_max_le {depths : List Nat} {a k : Nat} (ha : a ≤ k) (h : ∀ d ∈ depths, d ≤ k) :
    depths.foldl max a ≤ k := by
  induction depths generalizing a with
  | nil => exact ha
  | cons d depths ih =>
    have hd := Nat.max_le.2 ⟨ha, h d (List.mem_cons_self ..)⟩
    exact ih hd fun e he => h e (List.mem_cons_of_mem _ he)

/-- Beside an item, every other one has a character. -/
theorem add_length_le_sum {depths : List Nat} {d : Nat} (h : d ∈ depths) :
    d + depths.length ≤ (depths.map (max 1)).sum + 1 := by
  induction depths with
  | nil => cases h
  | cons e depths ih =>
    have hlength : depths.length ≤ (depths.map (max 1)).sum := by
      have hone : ∀ n ∈ depths.map (max 1), 1 ≤ n := by simp
      simpa using List.length_le_sum_of_one_le _ hone
    rw [List.map_cons, List.sum_cons, List.length_cons]
    rcases List.mem_cons.1 h with rfl | h
    · omega
    · have := ih h
      omega

theorem depthAround_le_sum (depths : List Nat) : depthAround depths ≤ (depths.map (max 1)).sum := by
  unfold depthAround
  split
  · exact Nat.zero_le _
  · simp
  next hnil hsingle =>
    have htwo : 2 ≤ depths.length := by
      match depths with
      | [] => exact absurd rfl hnil
      | [d] => exact absurd rfl (hsingle d)
      | _ :: _ :: _ => simp
    have hfold : depths.foldl max 0 ≤ (depths.map (max 1)).sum - 1 := by
      refine foldl_max_le (Nat.zero_le _) fun d hd => ?_
      have := add_length_le_sum hd
      omega
    obtain ⟨d, hd⟩ := List.exists_mem_of_length_pos (by omega : 0 < depths.length)
    have := add_length_le_sum hd
    omega

/-- The least count of characters for items of the given depths behind a mark that separates them from
others of a given depth, if there is such a mark. -/
def weight (before : Option Nat) (depths : List Nat) : Nat :=
  before.elim 0 (· + 1) + (depths.map (max 1)).sum

/-! ### Classes -/

section Classes

variable {m : Modes} {s rest : List Char} {depth : Nat}

namespace OpenClass

def weight (c : OpenClass) : Nat := Pattern.weight c.operands c.items

theorem weight_fresh : fresh.weight = 0 := rfl

theorem depth_le_weight (c : OpenClass) : c.depth ≤ c.weight := by
  have haround := depthAround_le_sum c.items
  unfold depth weight Pattern.weight
  cases c.operands with
  | none => simpa using haround
  | some left =>
    simp only [Option.elim_some]
    omega

theorem weight_add (c : OpenClass) (item : Nat) : (c.add item).weight = c.weight + max 1 item := by
  simp only [add, weight, Pattern.weight, List.map_cons, List.sum_cons]
  omega

theorem weight_addHyphen (c : OpenClass) : c.addHyphen.weight = c.weight + 1 := by
  simp only [addHyphen, weight, Pattern.weight, List.map_cons, List.sum_cons]
  omega

theorem weight_operate (c : OpenClass) : c.operate.weight ≤ c.weight + 1 := by
  have hdepth := c.depth_le_weight
  simpa [operate, weight, Pattern.weight] using hdepth

end OpenClass

/-- What the parts of a class add to its depth is no more than the characters they have. -/
theorem closeClass?_depth_add_length_le {n : Nat} {c : OpenClass} {around : List OpenClass}
    (h : closeClass? m n c around s = some (depth, rest)) :
    depth + rest.length ≤ c.weight + (around.map fun c => c.weight + 1).sum + s.length := by
  induction n generalizing c around s with
  | zero => cases h
  | succ n ih =>
    have hdepth := c.depth_le_weight
    unfold closeClass? at h
    split at h
    · cases h
    next hpart =>
      have hgo := ih h
      have hlength := (classPart?_behind hpart).of_skip.length_lt
      rw [OpenClass.weight_add] at hgo
      omega
    next hpart =>
      have hgo := ih h
      have hlength := (classPart?_behind hpart).of_skip.length_lt
      rw [OpenClass.weight_addHyphen] at hgo
      omega
    next hpart =>
      have hgo := ih h
      have hlength := (classPart?_behind hpart).of_skip.length_lt
      rw [OpenClass.weight_fresh, List.map_cons, List.sum_cons] at hgo
      omega
    next hpart =>
      have hgo := ih h
      have hlength := (classPart?_behind hpart).of_skip.length_lt
      have hoperate := c.weight_operate
      omega
    next hpart =>
      have hlength := (classPart?_behind hpart).of_skip.length_lt
      split at h
      · cases h
        omega
      next outer around =>
        have hgo := ih h
        rw [OpenClass.weight_add] at hgo
        rw [List.map_cons, List.sum_cons]
        omega

theorem class?_depth_add_length_le (h : class? m s = some (depth, rest)) :
    depth + rest.length ≤ s.length := by
  obtain ⟨behind, hopen, hclose⟩ := Option.bind_eq_some_iff.1 h
  have hbehind := (openClass?_suffix hopen).length_le
  have hclass := closeClass?_depth_add_length_le hclose
  rw [OpenClass.weight_fresh, List.map_nil, List.sum_nil] at hclass
  omega

end Classes

/-! ### Patterns -/

namespace OpenGroup

def weight (g : OpenGroup) : Nat := Pattern.weight g.alternatives (g.items.map Item.depth)

theorem weight_fresh (before : Modes) : (fresh before).weight = 0 := rfl

theorem alternativeDepth_le (g : OpenGroup) :
    g.alternativeDepth ≤ ((g.items.map Item.depth).map (max 1)).sum :=
  depthAround_le_sum _

theorem depth_le_weight (g : OpenGroup) : g.depth ≤ g.weight := by
  have haround := g.alternativeDepth_le
  unfold depth weight Pattern.weight
  cases g.alternatives with
  | none => simpa using haround
  | some deepest =>
    simp only [Option.elim_some]
    omega

theorem weight_add (g : OpenGroup) (item : Item) :
    (g.add item).weight = g.weight + max 1 item.depth := by
  simp only [add, weight, Pattern.weight, List.map_cons, List.sum_cons]
  omega

theorem weight_next_le (g : OpenGroup) : g.next.weight ≤ g.weight + 1 := by
  have haround := g.alternativeDepth_le
  unfold next weight Pattern.weight
  cases g.alternatives with
  | none => simpa using haround
  | some deepest =>
    simp only [Option.getD_some, Option.elim_some, List.map_nil, List.sum_nil]
    omega

theorem weight_repeated?_le {g g' : OpenGroup} (h : g.repeated? = some g') :
    g'.weight ≤ g.weight + 1 := by
  unfold repeated? at h
  split at h
  next hitems =>
    cases h
    simp only [weight, Pattern.weight, hitems, List.map_cons, List.sum_cons]
    omega
  · cases h

end OpenGroup

namespace Reading

variable {r r' : Reading} {s rest : List Char}

/-- The characters that all groups have up to here, with their opening parentheses. -/
def weight (r : Reading) : Nat := r.group.weight + (r.around.map fun g => g.weight + 1).sum

theorem weight_add (r : Reading) (depth : Nat) : (r.add depth).weight = r.weight + max 1 depth := by
  simp only [add, weight, OpenGroup.weight_add]
  omega

theorem weight_opened?_le {opening : Opening} (h : r.opened? opening = some r') :
    r'.weight ≤ r.weight + 1 := by
  unfold opened? at h
  split at h
  · cases h
    simp only [weight, OpenGroup.weight_add]
    omega
  · cases h
    simp only [weight, OpenGroup.weight_fresh, List.map_cons, List.sum_cons]
    omega
  · split at h <;> cases h
    simp only [weight, OpenGroup.weight_fresh, List.map_cons, List.sum_cons]
    omega

theorem weight_closed?_le (h : r.closed? = some r') : r'.weight ≤ r.weight + 1 := by
  have hdepth := r.group.depth_le_weight
  unfold closed? at h
  split at h
  · cases h
  next outer around haround =>
    cases h
    simp only [weight, haround, OpenGroup.weight_add, List.map_cons, List.sum_cons]
    omega

theorem weight_repeated?_le (h : r.repeated? s = some (r', rest)) : r'.weight ≤ r.weight + 1 := by
  obtain ⟨g, hg, hr⟩ := Option.map_eq_some_iff.1 h
  cases hr
  have hgroup := OpenGroup.weight_repeated?_le hg
  simp only [weight]
  omega

/-- What a part adds is no more than the characters it has, the first of which is given apart. -/
theorem step?_weight_le {c : Char} (h : r.step? c s = some (r', rest)) :
    r'.weight + rest.length ≤ r.weight + (s.length + 1) := by
  have hrest := (step?_suffix h).length_le
  have hadd : (r.add 0).weight = r.weight + 1 := r.weight_add 0
  unfold step? at h
  split at h
  case h_1 =>
    obtain ⟨⟨opening, behind⟩, -, hopened⟩ := Option.bind_eq_some_iff.1 h
    obtain ⟨_, hgroup, hr⟩ := Option.map_eq_some_iff.1 hopened
    cases hr
    have hweight := weight_opened?_le hgroup
    omega
  case h_2 =>
    obtain ⟨_, hgroup, hr⟩ := Option.map_eq_some_iff.1 h
    cases hr
    have hweight := weight_closed?_le hgroup
    omega
  case h_3 =>
    cases h
    have hnext := r.group.weight_next_le
    simp only [weight]
    omega
  case h_4 =>
    obtain ⟨⟨depth, behind⟩, hclass, hr⟩ := Option.map_eq_some_iff.1 h
    cases hr
    have hdepth := class?_depth_add_length_le hclass
    have hlength := (class?_behind hclass).length_lt
    rw [weight_add]
    omega
  case h_5 | h_6 | h_7 =>
    have hweight := weight_repeated?_le h
    omega
  case h_8 => cases h
  case h_9 =>
    split at h
    · split at h <;> cases h
      omega
    · cases h
  case h_10 | h_13 =>
    split at h <;> cases h
    omega
  all_goals
    cases h
    omega

theorem finish?_le {n depth : Nat} (h : finish? n r s = some depth) :
    depth ≤ r.weight + s.length := by
  induction n generalizing r s with
  | zero => cases h
  | succ n ih =>
    have hskip := (r.modes.skip_suffix s).length_le
    unfold finish? at h
    split at h
    · split at h <;> cases h
      have hdepth := r.group.depth_le_weight
      unfold weight
      omega
    next c cs hs =>
      obtain ⟨⟨r', rest⟩, hstep, hfinish⟩ := Option.bind_eq_some_iff.1 h
      have hgo := ih hfinish
      have hweight := step?_weight_le hstep
      rw [hs, List.length_cons] at hskip
      omega

end Reading

theorem depth?_le_length {s : List Char} {depth : Nat} (h : depth? s = some depth) :
    depth ≤ s.length := by
  have hstart : Reading.start.weight = 0 := rfl
  have hfinish := Reading.finish?_le h
  omega

/-- **A text that is not longer than patterns may be deep** is a pattern as soon as it can be read. -/
theorem isPattern_of_length_le {s : List Char} (h : s.length ≤ deepest) :
    isPattern s = (depth? s).isSome := by
  unfold isPattern
  cases hdepth : depth? s with
  | none => rfl
  | some depth => simpa using (depth?_le_length hdepth).trans h

end TypeShape.Text.Pattern
