import ClassAtlas.AnnotatedClass

/-!
Discovery of annotated classes. A class is found directly when it carries the direct annotation,
or by registry when an annotation of the registry kind, wherever it stands, lists its name. The
`internal` attribute of the finding annotation becomes the provenance flag. Direct classes come
first, and a declaration found twice keeps its first flag.
-/
namespace ClassAtlas.Discovery

inductive DiscoveryError where
  | notAnnotated (element kind : String)
  | noValue (kindName element : String)
  | malformedValue (kindName element : String)
  | unknownClass (kindName element listed : String)
  deriving DecidableEq, Repr

/-- Annotations are named by their simple names and elements by their qualified names. -/
def DiscoveryError.message : DiscoveryError → String
  | .notAnnotated element kind => s!"{element} is not annotated with {kind}"
  | .noValue kindName element => s!"{kindName} on {element} has no 'value' attribute"
  | .malformedValue kindName element =>
      s!"{kindName} on {element}: 'value' must list class names"
  | .unknownClass kindName element listed =>
      s!"{kindName} on {element} lists unknown class '{listed}'"

/-- The provenance flag; an attribute that is no truth value counts as unset. -/
def internalFlag (a : AnnotationUse) : Bool :=
  match a.value? "internal" with
  | some (.bool b) => b
  | _ => false

def required (e : Element) (kind : String) : Except DiscoveryError AnnotationUse :=
  match e.annotationOf? kind with
  | some a => .ok a
  | none => .error (.notAnnotated e.qualifiedName kind)

def isInternal (e : Element) (kind : String) : Except DiscoveryError Bool :=
  (required e kind).map internalFlag

/-- The names a value lists; a single name may stand without the list. -/
def listedNames? : Value → Option (List String)
  | .str name => some [name]
  | .seq items => Value.texts? items
  | _ => none

def listed (a : AnnotationUse) (e : Element) : Except DiscoveryError (List String) :=
  match a.value? "value" with
  | none => .error (.noValue a.simpleName e.qualifiedName)
  | some v =>
      match listedNames? v with
      | none => .error (.malformedValue a.simpleName e.qualifiedName)
      | some names => .ok names

/-- The class of a name that an element lists. -/
def resolve (h : Host) (kind : String) (e : Element) (internal : Bool) (name : String) :
    Except DiscoveryError AnnotatedClass :=
  match h.typeNamed? name with
  | none => .error (.unknownClass (Text.Dotted.simpleName kind) e.qualifiedName name)
  | some t => .ok ⟨.type t, internal⟩

def listedOn (h : Host) (kind : String) (e : Element) :
    Except DiscoveryError (List AnnotatedClass) := do
  let finding ← required e kind
  let names ← listed finding e
  names.mapM (resolve h kind e (internalFlag finding))

/-- The classes listed by the first registry annotation of each element, in listing order. -/
def registryClasses (h : Host) (kind : String) : Except DiscoveryError (List AnnotatedClass) :=
  List.flatten <$> (h.annotatedWith kind).mapM (listedOn h kind)

def directClass (kind : String) (t : TypeDeclaration) : Except DiscoveryError AnnotatedClass :=
  return ⟨.type t, ← isInternal (.type t) kind⟩

/-- Only type declarations are found directly. -/
def directClasses (h : Host) (kind : String) : Except DiscoveryError (List AnnotatedClass) :=
  ((h.annotatedWith kind).filterMap Element.type?).mapM (directClass kind)

structure Found where
  direct : List AnnotatedClass
  registry : List AnnotatedClass

namespace Found

def classes (f : Found) : ClassSet := .ofList (f.direct ++ f.registry)

/-- What is traced of a discovery. -/
def trace (f : Found) : List String :=
  [AnnotatedClass.shownAll f.registry, AnnotatedClass.shownAll f.direct]

/-- Finding no class is not reported. -/
def summary? (f : Found) (directKind : String) : Option String :=
  if f.classes.isNotEmpty then
    some ("Found " ++ Text.Dotted.simpleName directKind ++ " classes: " ++ f.classes.shown)
  else none

end Found

def discover (h : Host) (directKind : String) (registryKind : Option String) :
    Except DiscoveryError Found := do
  let direct ← directClasses h directKind
  let registry ← match registryKind with
    | some kind => registryClasses h kind
    | none => .ok []
  return ⟨direct, registry⟩

end ClassAtlas.Discovery
