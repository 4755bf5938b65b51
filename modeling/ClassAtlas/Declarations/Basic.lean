import ClassAtlas.Modifier
import ClassAtlas.SourceType

/-!
Declarations of classes and their members, as a declarations document lists them.
-/
namespace ClassAtlas

/-- A field, or a parameter of a method or constructor. -/
structure VariableDecl where
  name : String
  type : SourceType
  modifiers : List Modifier
  annotations : List AnnotationUse
  deriving Repr

structure MethodDecl where
  name : String
  returnType : SourceType
  parameters : List VariableDecl
  modifiers : List Modifier
  annotations : List AnnotationUse
  deriving Repr

structure ConstructorDecl where
  parameters : List VariableDecl
  modifiers : List Modifier
  annotations : List AnnotationUse
  deriving Repr

inductive TypeKind where
  | plainClass
  | interface
  | enumeration
  deriving DecidableEq, Repr

def TypeKind.word : TypeKind → String
  | .plainClass => "class"
  | .interface => "interface"
  | .enumeration => "enum"

/-- The namespace of a class follows from its qualified name unless it is given. -/
structure ClassDecl where
  name : String
  kind : TypeKind
  givenNamespace : Option String
  modifiers : List Modifier
  annotations : List AnnotationUse
  supertypes : List SourceType
  fields : List VariableDecl
  constructors : List ConstructorDecl
  methods : List MethodDecl
  deriving Repr

structure Declarations where
  classes : List ClassDecl
  deriving Repr

end ClassAtlas
