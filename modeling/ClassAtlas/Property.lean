import ClassAtlas.ReflectedType
import ClassAtlas.Text.Casing

/-!
Properties of a class: its supported fields, each linked to the getter of its name and to the
parameter of its name in the first constructor. The links are set when the properties are listed.
-/
namespace ClassAtlas

structure Property where
  owner : Element
  field : Member
  getter : Option Member
  parameter : Option Parameter
  deriving Repr

/-- How generated code reads a property. -/
inductive Access where
  | viaGetter
  | direct
  deriving DecidableEq, Repr

def Access.word : Access → String
  | .viaGetter => "accessor"
  | .direct => "direct"

namespace Element

/-- `age` is read by `getAge`. -/
def getterName (property : String) : String :=
  String.ofList ("get".toList ++ Text.Casing.capitalized property.toList)

/-- The first method of the getter's name. -/
def getter? (e : Element) (property : String) : Option Member :=
  e.members.find? fun m => m.kind == .method && m.name == getterName property

/-- A property is read through its getter only when that is private. -/
def access (e : Element) (property : String) : Access :=
  match e.getter? property with
  | some getter => if getter.modifiers.contains .isPrivate then .viaGetter else .direct
  | none => .direct

def constructorParameters (e : Element) : List Parameter :=
  match e.members.find? (·.kind == .constructor) with
  | some constructor => constructor.parameters
  | none => []

def propertyOf (e : Element) (field : Member) : Property where
  owner := e
  field := field
  getter := e.getter? field.name
  parameter := e.constructorParameters.find? (·.name == field.name)

def isSupported (unsupported : List Modifier) (field : Member) : Bool :=
  !field.modifiers.any unsupported.contains

def properties (e : Element) (unsupported : List Modifier) : List Property :=
  (e.members.filter fun m => m.kind == .field && isSupported unsupported m).map e.propertyOf

/-- A selector, where one is given, is put to the supported fields alone. -/
def propertiesWhere (e : Element) (unsupported : List Modifier)
    (selector : Option (Property → Bool)) : List Property :=
  (e.properties unsupported).filter fun p => selector.all fun admits => admits p

end Element

namespace Property

def name (p : Property) : String := p.field.name

def source (p : Property) : SourceType := p.field.type

def reflected (p : Property) : ReflectedType := ⟨p.source⟩

/-- Field, getter and parameter, as far as they exist. -/
def elements (p : Property) : List Element :=
  [.member p.field] ++ (p.getter.map .member).toList ++ (p.parameter.map .parameter).toList

def isDeclaredNullable (p : Property) (tr : Translator) : Bool :=
  p.elements.any fun e => tr.hasMarker e.annotations

/-- The translated type; a marker on the field, the getter or the parameter makes it nullable. -/
def type (p : Property) (tr : Translator) : Traced TargetType := do
  let target ← tr.translate p.source
  return if p.isDeclaredNullable tr then target.withNullable true else target

/-- The first annotation of a kind on the field, else on the getter, else on the parameter. -/
def annotationOf? (p : Property) (kind : String) : Option AnnotationUse :=
  p.elements.findSome? (·.annotationOf? kind)

def argumentSource? (p : Property) (index : Int) : Option SourceType := p.source.argument? index

def argumentType? (p : Property) (tr : Translator) (index : Int) : Traced (Option TargetType) := do
  let target ← p.type tr
  return target.argument? index

def argumentDeclaration? (p : Property) (h : Host) (index : Int) : Option TypeDeclaration :=
  (p.argumentSource? index).bind h.declarationOf?

/-- The getter is looked up again in the owner. -/
def access (p : Property) : Access := p.owner.access p.name

def shown (p : Property) : String :=
  let getter := (Value.bool p.getter.isSome).shown
  let parameter := (Value.bool p.parameter.isSome).shown
  "AnnotatedProperty(name=" ++ Text.quoted p.name ++ ", getter=" ++ getter ++ ", parameter="
    ++ parameter ++ ")"

end Property

/-- A class is asked for a property by the property itself or by its name. -/
inductive PropertyKey where
  | property (p : Property)
  | named (name : String)
  deriving Repr

def PropertyKey.name : PropertyKey → String
  | property p => p.name
  | named name => name

section Reference

variable {m : Type → Type} {α : Type}

/-- Of two handlers the one is run that fits the way the property is read. -/
def Element.reference (e : Element) (key : PropertyKey) (viaGetter direct : m α) : m α :=
  match e.access key.name with
  | .viaGetter => viaGetter
  | .direct => direct

def Property.reference (p : Property) (viaGetter direct : m α) : m α :=
  p.owner.reference (.named p.name) viaGetter direct

end Reference
end ClassAtlas
