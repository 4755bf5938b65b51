import ClassAtlas.Host.Standard

/-!
The host of a round: the classes of a declarations document and the library types it knows
besides. By name a listed class is found before a known type, and the last listed class of a name
before the others.
-/
namespace ClassAtlas

structure Host where
  known : List TypeDeclaration
  classes : List TypeDeclaration
  deriving Repr

namespace Host

def ofDeclarations (d : Declarations) (withStandard : Bool) : Host where
  known := if withStandard then standardTypes else []
  classes := d.classes.mapIdx TypeDeclaration.ofDecl

def named (name : String) (types : List TypeDeclaration) : Option TypeDeclaration :=
  types.find? (·.qualifiedName == name)

def typeNamed? (h : Host) (name : String) : Option TypeDeclaration :=
  (named name h.classes.reverse).or (named name h.known)

/-- The declaration that a declared type resolves to. -/
def declarationOf? (h : Host) (t : SourceType) : Option TypeDeclaration :=
  t.rawName?.bind h.typeNamed?

/-- All elements of the listed classes. -/
def elements (h : Host) : List Element := h.classes.flatMap Element.walk

def annotatedWith (h : Host) (kind : String) : List Element :=
  h.elements.filter (·.carries kind)

def names (h : Host) : List String := (h.classes ++ h.known).map (·.qualifiedName)

theorem mem_names_of_typeNamed? {h : Host} {name : String} {t : TypeDeclaration}
    (found : h.typeNamed? name = some t) : name ∈ h.names := by
  have lookup : ∀ types : List TypeDeclaration, named name types = some t →
      t ∈ types ∧ t.qualifiedName = name := by
    intro types hn
    exact ⟨List.mem_of_find?_eq_some hn, by simpa using List.find?_some hn⟩
  simp only [names, List.mem_map, List.mem_append]
  rcases Option.or_eq_some_iff.mp found with hl | ⟨_, hk⟩
  · obtain ⟨mem, same⟩ := lookup _ hl
    exact ⟨t, .inl (List.mem_reverse.mp mem), same⟩
  · obtain ⟨mem, same⟩ := lookup _ hk
    exact ⟨t, .inr mem, same⟩

end Host

/-- What a question can be put to: an element, or a value that is none. -/
inductive Subject where
  | element (e : Element)
  | foreign (v : Value)

structure NotAnElement where
  given : Value

def NotAnElement.message (e : NotAnElement) : String :=
  "Not a declaration of the in-memory host: " ++ e.given.shown

def Subject.element? : Subject → Except NotAnElement Element
  | .element e => .ok e
  | .foreign v => .error ⟨v⟩

end ClassAtlas
