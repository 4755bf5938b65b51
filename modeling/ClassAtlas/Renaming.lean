/-!
Renaming of source type names to target type names. Collection interfaces map to their read-only
counterparts; a name outside the table stands for itself.
-/
namespace ClassAtlas

/-- Entries with pairwise different names. -/
structure Renaming where
  entries : List (String × String)
  deriving DecidableEq, Repr

namespace Renaming

def targetArray : String := "kotlin.Array"
def targetByte : String := "kotlin.Byte"
def targetByteArray : String := "kotlin.ByteArray"

def primitives : List (String × String) :=
  [("boolean", "kotlin.Boolean"), ("byte", targetByte), ("short", "kotlin.Short"),
    ("int", "kotlin.Int"), ("long", "kotlin.Long"), ("char", "kotlin.Char"),
    ("float", "kotlin.Float"), ("double", "kotlin.Double"), ("void", "kotlin.Unit")]

def language : List (String × String) :=
  [("java.lang.Object", "kotlin.Any"), ("java.lang.String", "kotlin.String"),
    ("java.lang.CharSequence", "kotlin.CharSequence"),
    ("java.lang.Throwable", "kotlin.Throwable"), ("java.lang.Cloneable", "kotlin.Cloneable"),
    ("java.lang.Number", "kotlin.Number"), ("java.lang.Comparable", "kotlin.Comparable"),
    ("java.lang.Enum", "kotlin.Enum"),
    ("java.lang.annotation.Annotation", "kotlin.Annotation"),
    ("java.lang.Deprecated", "kotlin.Deprecated"), ("java.lang.Boolean", "kotlin.Boolean"),
    ("java.lang.Byte", targetByte), ("java.lang.Short", "kotlin.Short"),
    ("java.lang.Integer", "kotlin.Int"), ("java.lang.Long", "kotlin.Long"),
    ("java.lang.Character", "kotlin.Char"), ("java.lang.Float", "kotlin.Float"),
    ("java.lang.Double", "kotlin.Double"), ("java.lang.Void", "kotlin.Unit"),
    ("java.lang.Iterable", "kotlin.collections.Iterable")]

def collections : List (String × String) :=
  [("java.util.Iterator", "kotlin.collections.Iterator"),
    ("java.util.ListIterator", "kotlin.collections.ListIterator"),
    ("java.util.Collection", "kotlin.collections.Collection"),
    ("java.util.List", "kotlin.collections.List"), ("java.util.Set", "kotlin.collections.Set"),
    ("java.util.Map", "kotlin.collections.Map"),
    ("java.util.Map.Entry", "kotlin.collections.Map.Entry")]

def standard : Renaming := ⟨primitives ++ language ++ collections⟩

def empty : Renaming := ⟨[]⟩

def put (name target : String) : List (String × String) → List (String × String)
  | [] => [(name, target)]
  | (n, t) :: rest => if n = name then (n, target) :: rest else (n, t) :: put name target rest

/-- Further entries over a table; they win over entries of the same name. -/
def extend (r : Renaming) (extra : List (String × String)) : Renaming :=
  ⟨extra.foldl (fun entries (name, target) => put name target entries) r.entries⟩

def target? (r : Renaming) (name : String) : Option String := r.entries.lookup name

def rename (r : Renaming) (name : String) : String := (r.target? name).getD name

def size (r : Renaming) : Nat := r.entries.length

theorem lookup_put_of_ne {name other : String} (apart : other ≠ name) (target : String)
    (entries : List (String × String)) :
    (put name target entries).lookup other = entries.lookup other := by
  have differs : (other == name) = false := beq_eq_false_iff_ne.mpr apart
  induction entries with
  | nil => rw [put, List.lookup_cons, differs]
  | cons entry rest ih =>
      obtain ⟨own, value⟩ := entry
      rw [put]
      split
      case isTrue same => rw [same, List.lookup_cons, List.lookup_cons, differs]
      case isFalse => rw [List.lookup_cons, List.lookup_cons, ih]

/-- Further entries leave the names that are none of theirs. -/
theorem rename_extend_of_absent {name : String} {extra : List (String × String)}
    (absent : ∀ entry ∈ extra, entry.1 ≠ name) (r : Renaming) :
    (r.extend extra).rename name = r.rename name := by
  suffices same : (r.extend extra).entries.lookup name = r.entries.lookup name by
    rw [rename, rename, target?, target?, same]
  rw [extend]
  induction extra generalizing r with
  | nil => rfl
  | cons entry rest ih =>
      obtain ⟨apart, others⟩ := List.forall_mem_cons.mp absent
      rw [List.foldl_cons, ih others ⟨put entry.1 entry.2 r.entries⟩]
      exact lookup_put_of_ne apart.symm _ _

end Renaming
end ClassAtlas
