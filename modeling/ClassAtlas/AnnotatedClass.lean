import ClassAtlas.Property

/-!
Annotated classes and sets of them. A set is keyed by declaration and keeps the order of the first
insertions; adding a declaration again changes nothing.
-/
namespace ClassAtlas

/-- A declaration found by its annotation, with the provenance flag of that annotation. -/
structure AnnotatedClass where
  element : Element
  internal : Bool
  deriving Repr

namespace AnnotatedClass

def place (c : AnnotatedClass) : Place := c.element.place

def simpleName (c : AnnotatedClass) : String := c.element.name

def qualifiedName (c : AnnotatedClass) : String := c.element.qualifiedName

def namespaceName (c : AnnotatedClass) : String := c.element.namespaceName

def properties (c : AnnotatedClass) (ctx : Context) : List Property :=
  c.element.properties ctx.unsupported

/-- Two annotated classes are equal when they wrap one declaration, whatever their flags. -/
def same (c d : AnnotatedClass) : Bool := c.place == d.place

def shown (c : AnnotatedClass) : String :=
  let internal := (Value.bool c.internal).shown
  "Annotated(element=" ++ c.qualifiedName ++ ", internal=" ++ internal ++ ")"

def shownAll (classes : List AnnotatedClass) : String :=
  Text.enclosed "[" "]" (classes.map shown)

end AnnotatedClass

structure ClassSet where
  classes : List AnnotatedClass
  distinct : (classes.map AnnotatedClass.place).Nodup

namespace ClassSet

def empty : ClassSet := ⟨[], by simp⟩

def toList (s : ClassSet) : List AnnotatedClass := s.classes

def get? (s : ClassSet) (place : Place) : Option AnnotatedClass :=
  s.classes.find? (·.place == place)

def contains (s : ClassSet) (place : Place) : Bool := s.classes.any (·.place == place)

theorem contains_iff (s : ClassSet) (place : Place) :
    s.contains place ↔ place ∈ s.classes.map AnnotatedClass.place := by
  simp [contains]

/-- A class whose declaration is present is not added again. -/
def add (s : ClassSet) (c : AnnotatedClass) : ClassSet :=
  if h : s.contains c.place then s
  else
    { classes := s.classes ++ [c]
      distinct := by
        rw [contains_iff] at h
        rw [List.map_append, List.nodup_append]
        refine ⟨s.distinct, by simp, ?_⟩
        intro p hp q hq heq
        simp only [List.map_cons, List.map_nil, List.mem_singleton] at hq
        exact h (hq ▸ heq ▸ hp) }

def addAll (s : ClassSet) (classes : List AnnotatedClass) : ClassSet := classes.foldl add s

def ofList (classes : List AnnotatedClass) : ClassSet := empty.addAll classes

def filter (s : ClassSet) (keep : AnnotatedClass → Bool) : ClassSet :=
  ofList (s.classes.filter keep)

def size (s : ClassSet) : Nat := s.classes.length

def isNotEmpty (s : ClassSet) : Bool := !s.classes.isEmpty

def shown (s : ClassSet) : String := AnnotatedClass.shownAll s.classes

end ClassSet
end ClassAtlas
