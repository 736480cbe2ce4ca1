import TypeShape.Description.Construction

/-!
# The catalog

Named constructions, one or more for every call that builds a descriptor, among them some that are
expected to fail. Main statement: `nodup_names`, no two entries share a name.
-/

namespace TypeShape

/-- A construction with a name. -/
structure Entry where
  name : String
  /-- What is built. -/
  summary : String
  build : Attempt (Descriptor Symbol)

/-- Named constructions in order. -/
abbrev Catalog := List Entry

namespace Catalog

def find? (catalog : Catalog) (name : String) : Option Entry := List.find? (·.name == name) catalog

/-- A built-in type without arguments. -/
def plain (name : String) : Expr Symbol := .nominal (Builtin.symbol name)

/-- A built-in constructor with its arguments. -/
def generic (name : String) (arguments : List (Expr Symbol)) : Expr Symbol :=
  .app (Builtin.symbol name) arguments

def nestedMap : Expr Symbol :=
  generic "HashMap" [plain "String", generic "Vec" [generic "Option" [plain "u64"]]]

/-- The constructions that the command line offers. -/
def standard : Catalog :=
  [⟨"string", "from_type(String)", Descriptor.fromType (some (plain "String"))⟩,
   ⟨"list-of-integers", "list_of(i32)", Descriptor.listOf (some (plain "i32"))⟩,
   ⟨"map-of-string-to-integer", "map_of(String, i32)",
     Descriptor.mapOf (some (plain "String")) (some (plain "i32"))⟩,
   ⟨"map-missing-value", "map_of(String, None)", Descriptor.mapOf (some (plain "String")) none⟩,
   ⟨"list-of-arrays", "list_of([u8; 4])",
     Descriptor.listOf (some (.array (plain "u8") (some 4)))⟩,
   ⟨"nested-map", "of::<HashMap<String, Vec<Option<u64>>>>()", Descriptor.ofType nestedMap⟩,
   ⟨"list-of-any", "of::<Vec<Box<dyn Any>>>()",
     Descriptor.ofType (generic "Vec" [generic "Box" [.anything]])⟩,
   ⟨"deque-of-strings", "capture of TypeToken<VecDeque<String>>",
     Descriptor.capture (Builtin.ancestorOf (some (generic "VecDeque" [plain "String"])))⟩,
   ⟨"array-of-strings", "capture of TypeToken<[String; 3]>",
     Descriptor.capture (Builtin.ancestorOf (some (.array (plain "String") (some 3))))⟩,
   ⟨"unpinned", "capture of bare TypeToken", Descriptor.capture (Builtin.ancestorOf none)⟩]

theorem nodup_names : (standard.map (·.name)).Nodup := by decide +kernel

end Catalog

end TypeShape
