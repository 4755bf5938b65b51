import ClassAtlas.Declarations.Basic
import ClassAtlas.Text.Dotted

/-!
Declared elements: types, their members, and the parameters of these. Every element has a place,
and two elements are the same declaration exactly when their places are equal; names may repeat.
-/
namespace ClassAtlas

inductive Place where
  | known (name : String)
  | listed (index : Nat)
  | member (owner index : Nat)
  | parameter (owner member index : Nat)
  deriving DecidableEq, Repr

/-- What every element has. -/
structure ElementInfo where
  place : Place
  name : String
  qualifiedName : String
  namespaceName : String
  modifiers : List Modifier
  annotations : List AnnotationUse
  deriving Repr

structure Parameter extends ElementInfo where
  type : SourceType
  deriving Repr

inductive MemberKind where
  | field
  | constructor
  | method
  deriving DecidableEq, Repr

/-- The type of a method is its return type, that of a constructor the class. -/
structure Member extends ElementInfo where
  kind : MemberKind
  type : SourceType
  parameters : List Parameter
  deriving Repr

structure TypeDeclaration extends ElementInfo where
  kind : TypeKind
  supertypes : List SourceType
  members : List Member
  deriving Repr

inductive Element where
  | type (t : TypeDeclaration)
  | member (m : Member)
  | parameter (p : Parameter)
  deriving Repr

namespace Element

def info : Element → ElementInfo
  | type t => t.toElementInfo
  | member m => m.toElementInfo
  | parameter p => p.toElementInfo

def place (e : Element) : Place := e.info.place

def name (e : Element) : String := e.info.name

def qualifiedName (e : Element) : String := e.info.qualifiedName

def namespaceName (e : Element) : String := e.info.namespaceName

def modifiers (e : Element) : List Modifier := e.info.modifiers

def annotations (e : Element) : List AnnotationUse := e.info.annotations

def kindWord : Element → String
  | type t => t.kind.word
  | member ⟨_, .field, _, _⟩ => "field"
  | member ⟨_, .constructor, _, _⟩ => "constructor"
  | member ⟨_, .method, _, _⟩ => "method"
  | parameter _ => "parameter"

/-- The declaration of an element that declares a type. -/
def type? : Element → Option TypeDeclaration
  | type t => some t
  | member _ | parameter _ => none

/-- Members of a type declaration; other elements have none. -/
def members : Element → List Member
  | type t => t.members
  | member _ | parameter _ => []

def parameters : Element → List Parameter
  | member m => m.parameters
  | type _ | parameter _ => []

def supertypes : Element → List SourceType
  | type t => t.supertypes
  | member _ | parameter _ => []

/-- A type declaration is of the type it declares. -/
def declaredType : Element → SourceType
  | type t => .bare t.qualifiedName
  | member m => m.type
  | parameter p => p.type

/-- The first annotation of a kind. -/
def annotationOf? (e : Element) (kind : String) : Option AnnotationUse :=
  e.annotations.find? (·.kind == kind)

def carries (e : Element) (kind : String) : Bool := e.annotations.any (·.kind == kind)

/-- A type followed by its members, each with its parameters. -/
def walk (t : TypeDeclaration) : List Element :=
  type t :: t.members.flatMap fun m => member m :: m.parameters.map parameter

end Element

namespace TypeDeclaration

def parameterOf (owner member : Nat) (namespaceName : String) (index : Nat) (d : VariableDecl) :
    Parameter where
  place := .parameter owner member index
  name := d.name
  qualifiedName := d.name
  namespaceName := namespaceName
  modifiers := d.modifiers
  annotations := d.annotations
  type := d.type

/-- A member yet without its position in the class. -/
abbrev MemberAt := Nat → Member

def fieldOf (owner : Nat) (namespaceName : String) (d : VariableDecl) : MemberAt := fun index =>
  { place := .member owner index
    name := d.name
    qualifiedName := d.name
    namespaceName := namespaceName
    modifiers := d.modifiers
    annotations := d.annotations
    kind := .field
    type := d.type
    parameters := [] }

def constructorOf (owner : Nat) (className namespaceName : String) (d : ConstructorDecl) :
    MemberAt := fun index =>
  { place := .member owner index
    name := "<init>"
    qualifiedName := "<init>"
    namespaceName := namespaceName
    modifiers := d.modifiers
    annotations := d.annotations
    kind := .constructor
    type := .bare className
    parameters := d.parameters.mapIdx (parameterOf owner index namespaceName) }

def methodOf (owner : Nat) (namespaceName : String) (d : MethodDecl) : MemberAt := fun index =>
  { place := .member owner index
    name := d.name
    qualifiedName := d.name
    namespaceName := namespaceName
    modifiers := d.modifiers
    annotations := d.annotations
    kind := .method
    type := d.returnType
    parameters := d.parameters.mapIdx (parameterOf owner index namespaceName) }

def namespaceOf (d : ClassDecl) : String :=
  d.givenNamespace.getD (Text.Dotted.namespaceOf d.name)

/-- The class at a position of the document: fields first, then constructors, then methods. -/
def ofDecl (index : Nat) (d : ClassDecl) : TypeDeclaration where
  place := .listed index
  name := Text.Dotted.simpleName d.name
  qualifiedName := d.name
  namespaceName := namespaceOf d
  modifiers := d.modifiers
  annotations := d.annotations
  kind := d.kind
  supertypes := d.supertypes
  members :=
    (d.fields.map (fieldOf index (namespaceOf d))
      ++ d.constructors.map (constructorOf index d.name (namespaceOf d))
      ++ d.methods.map (methodOf index (namespaceOf d))).mapIdx fun i member => member i

end TypeDeclaration
end ClassAtlas
