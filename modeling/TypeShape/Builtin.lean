import TypeShape.StaticType.Basic

/-!
# Built-in types

The types and constructors that every program may use: the primitive types, strings, the unit type,
the collections, `Option`, `Result` and the owning pointers. A constructor is known by its name
applied to a placeholder in every position, so all its applications share one symbol.

* `Builtin.declarations`: the names with their symbols. Main statement: `nodup_names`, no name is
  declared twice.
* `Builtin.symbol`: the symbol of a name. Main statements: `symbol_of_mem`, a declared name stands for
  what it is declared as; `symbol_beq_iff`, different names stand for different types.
-/

namespace TypeShape

namespace Builtin

/-- What stands in the argument positions of a constructor's full name. -/
def placeholder : String := "type_token::identifiers::Erased"

/-- A declaration of the given name, path and number of arguments. -/
def declare (name path : String) (arity : Nat) : Declaration where
  name := name
  arity := arity
  symbol :=
    { identity := .named name
      fullName :=
        if arity = 0 then path
        else path ++ "<" ++ ", ".intercalate (List.replicate arity placeholder) ++ ">" }

/-- Types whose path is their name. -/
def primitives : Declarations :=
  ["bool", "char", "i8", "i16", "i32", "i64", "i128", "isize", "u8", "u16", "u32", "u64", "u128",
   "usize", "f32", "f64", "str", "()"].map fun name => declare name name 0

/-- The built-in types and constructors. -/
def declarations : Declarations :=
  primitives ++
  [declare "String" "alloc::string::String" 0,
   declare "Vec" "alloc::vec::Vec" 1,
   declare "VecDeque" "alloc::collections::vec_deque::VecDeque" 1,
   declare "LinkedList" "alloc::collections::linked_list::LinkedList" 1,
   declare "HashSet" "std::collections::hash::set::HashSet" 1,
   declare "BTreeSet" "alloc::collections::btree::set::BTreeSet" 1,
   declare "BinaryHeap" "alloc::collections::binary_heap::BinaryHeap" 1,
   declare "Option" "core::option::Option" 1,
   declare "Result" "core::result::Result" 2,
   declare "HashMap" "std::collections::hash::map::HashMap" 2,
   declare "BTreeMap" "alloc::collections::btree::map::BTreeMap" 2,
   declare "Box" "alloc::boxed::Box" 1,
   declare "Rc" "alloc::rc::Rc" 1,
   declare "Arc" "alloc::sync::Arc" 1]

theorem nodup_names : (declarations.map (·.name)).Nodup := by decide +kernel

/-- The symbol of a built-in name; any other name stands for itself. -/
def symbol (name : String) : Symbol :=
  match declarations.find? fun d => d.name == name with
  | some d => d.symbol
  | none => (declare name name 0).symbol

theorem eq_of_name_eq {d e : Declaration} (hd : d ∈ declarations) (he : e ∈ declarations)
    (h : d.name = e.name) : d = e := by
  obtain ⟨i, hi, rfl⟩ := List.mem_iff_getElem.1 hd
  obtain ⟨j, hj, rfl⟩ := List.mem_iff_getElem.1 he
  have hne := List.pairwise_iff_getElem.1 (List.pairwise_map.1 nodup_names)
  rcases Nat.lt_trichotomy i j with hij | rfl | hji
  · exact absurd h (hne i j hi hj hij)
  · rfl
  · exact absurd h.symm (hne j i hj hi hji)

theorem symbol_of_mem {d : Declaration} (h : d ∈ declarations) : symbol d.name = d.symbol := by
  unfold symbol
  cases hfound : declarations.find? fun e => e.name == d.name with
  | none => simpa using List.find?_eq_none.1 hfound d h
  | some e =>
    have hname : e.name = d.name := by simpa using List.find?_some hfound
    rw [eq_of_name_eq (List.mem_of_find?_eq_some hfound) h hname]

theorem identity_symbol (name : String) : (symbol name).identity = .named name := by
  have hnames : ∀ d ∈ declarations, d.symbol.identity = .named d.name := by decide +kernel
  unfold symbol
  split
  next d hfound =>
    have hname : d.name = name := by simpa using List.find?_some hfound
    rw [hnames d (List.mem_of_find?_eq_some hfound), hname]
  · rfl

theorem symbol_beq_iff (name name' : String) :
    (symbol name == symbol name') = true ↔ name = name' := by
  rw [Symbol.beq_iff, identity_symbol, identity_symbol, Identity.named.injEq]

def list : Symbol := symbol "Vec"

def map : Symbol := symbol "HashMap"

theorem path_list : list.path = "alloc::vec::Vec" := by decide +kernel

theorem path_map : map.path = "std::collections::hash::map::HashMap" := by decide +kernel

theorem not_list_beq_map : ¬ (list == map) = true := by
  rw [list, map, symbol_beq_iff]
  decide

/-- The type of descriptors, the ancestor of every type that pins an argument down. -/
def template : Symbol := (declare "TypeToken" "type_token::token::TypeToken" 0).symbol

/-- The ancestor that pins down the given argument, or none. -/
def ancestorOf : Option (Expr Symbol) → Expr Symbol
  | none => .nominal template
  | some e => .app template [e]

end Builtin

end TypeShape
