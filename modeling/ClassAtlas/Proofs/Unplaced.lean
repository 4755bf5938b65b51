import ClassAtlas.Artifact.Basic
import ClassAtlas.Proofs.MemberChange

/-!
Elements apart from their places. A place tells where in the document an element stands and is
asked for only where two elements are told apart. Nothing that an artifact says depends on it: a
class without places has the same properties, without places, and the same artifact.
-/
namespace ClassAtlas

/-- The place that stands for any other where places do not count. -/
def Place.anywhere : Place := .known ""

def Parameter.unplaced (p : Parameter) : Parameter := { p with place := .anywhere }

def Member.unplaced (m : Member) : Member :=
  { m with place := .anywhere, parameters := m.parameters.map Parameter.unplaced }

namespace TypeDeclaration

def unplaced (t : TypeDeclaration) : TypeDeclaration :=
  { t with place := .anywhere, members := t.members.map Member.unplaced }

theorem map_unplaced_mapIdx_parameterOf (owner owner' member member' : Nat)
    (namespaceName : String) (ds : List VariableDecl) :
    (ds.mapIdx (parameterOf owner member namespaceName)).map Parameter.unplaced =
      (ds.mapIdx (parameterOf owner' member' namespaceName)).map Parameter.unplaced := by
  apply List.ext_getElem
  · simp
  · intro i _ _
    simp [parameterOf, Parameter.unplaced]

theorem unplaced_fieldOf (owner owner' : Nat) (namespaceName : String) (d : VariableDecl)
    (index index' : Nat) :
    (fieldOf owner namespaceName d index).unplaced =
      (fieldOf owner' namespaceName d index').unplaced := rfl

theorem unplaced_constructorOf (owner owner' : Nat) (className namespaceName : String)
    (d : ConstructorDecl) (index index' : Nat) :
    (constructorOf owner className namespaceName d index).unplaced =
      (constructorOf owner' className namespaceName d index').unplaced := by
  simp only [constructorOf, Member.unplaced,
    map_unplaced_mapIdx_parameterOf owner owner' index index']

theorem unplaced_methodOf (owner owner' : Nat) (namespaceName : String) (d : MethodDecl)
    (index index' : Nat) :
    (methodOf owner namespaceName d index).unplaced =
      (methodOf owner' namespaceName d index').unplaced := by
  simp only [methodOf, Member.unplaced, map_unplaced_mapIdx_parameterOf owner owner' index index']

/-- Members that are the same at every position, apart from places. -/
theorem map_unplaced_mapIdx {ms : List MemberAt}
    (steady : ∀ m ∈ ms, ∀ index, (m index).unplaced = (m 0).unplaced) :
    (ms.mapIdx fun index m => m index).map Member.unplaced = ms.map fun m => (m 0).unplaced := by
  apply List.ext_getElem
  · simp
  · intro index _ _
    simp only [List.getElem_map, List.getElem_mapIdx]
    exact steady _ (List.getElem_mem _) index

theorem map_unplaced_members_ofDecl (index : Nat) (d : ClassDecl) :
    (ofDecl index d).members.map Member.unplaced =
      d.fields.map (fun f => (fieldOf 0 (namespaceOf d) f 0).unplaced)
        ++ d.constructors.map (fun c => (constructorOf 0 d.name (namespaceOf d) c 0).unplaced)
        ++ d.methods.map (fun m => (methodOf 0 (namespaceOf d) m 0).unplaced) := by
  rw [ofDecl, map_unplaced_mapIdx]
  · simp only [List.map_append, List.map_map, Function.comp_def, unplaced_fieldOf index 0 _ _ 0 0,
      unplaced_constructorOf index 0 _ _ _ 0 0, unplaced_methodOf index 0 _ _ 0 0]
  · simp only [List.mem_append, List.mem_map]
    rintro m ((⟨f, _, rfl⟩ | ⟨c, _, rfl⟩) | ⟨n, _, rfl⟩) i
    · exact unplaced_fieldOf ..
    · exact unplaced_constructorOf ..
    · exact unplaced_methodOf ..

/-- What is declared of a class does not depend on where the document lists it. -/
theorem unplaced_ofDecl (index index' : Nat) (d : ClassDecl) :
    (ofDecl index d).unplaced = (ofDecl index' d).unplaced := by
  rw [unplaced, unplaced, map_unplaced_members_ofDecl, map_unplaced_members_ofDecl]
  rfl

end TypeDeclaration

namespace Element

def unplaced : Element → Element
  | type t => .type t.unplaced
  | member m => .member m.unplaced
  | parameter p => .parameter p.unplaced

variable (e : Element)

@[simp] theorem qualifiedName_unplaced : e.unplaced.qualifiedName = e.qualifiedName := by
  cases e <;> rfl

@[simp] theorem namespaceName_unplaced : e.unplaced.namespaceName = e.namespaceName := by
  cases e <;> rfl

@[simp] theorem annotations_unplaced : e.unplaced.annotations = e.annotations := by
  cases e <;> rfl

@[simp] theorem members_unplaced : e.unplaced.members = e.members.map Member.unplaced := by
  cases e <;> rfl

section Alike

variable {e e' : Element}

theorem qualifiedName_eq_of_unplaced (same : e'.unplaced = e.unplaced) :
    e'.qualifiedName = e.qualifiedName := by
  rw [← qualifiedName_unplaced, same, qualifiedName_unplaced]

theorem annotationOf?_eq_of_unplaced (same : e'.unplaced = e.unplaced) (kind : String) :
    e'.annotationOf? kind = e.annotationOf? kind := by
  rw [annotationOf?, ← annotations_unplaced, same, annotations_unplaced, annotationOf?]

theorem carries_eq_of_unplaced (same : e'.unplaced = e.unplaced) (kind : String) :
    e'.carries kind = e.carries kind := by
  rw [carries, ← annotations_unplaced, same, annotations_unplaced, carries]

end Alike

theorem walk_unplaced (t : TypeDeclaration) : walk t.unplaced = (walk t).map unplaced := by
  rw [walk, walk, List.map_cons, List.map_flatMap]
  change _ :: (t.members.map Member.unplaced).flatMap _ = _
  rw [List.flatMap_map]
  simp only [List.map_cons, List.map_map, Function.comp_def, unplaced, Member.unplaced]

end Element

def Property.unplaced (p : Property) : Property where
  owner := p.owner.unplaced
  field := p.field.unplaced
  getter := p.getter.map Member.unplaced
  parameter := p.parameter.map Parameter.unplaced

/-- Taking the places away, as a change of members. -/
def MemberChange.unplaced : MemberChange where
  member := Member.unplaced
  parameter := Parameter.unplaced
  name_member _ := rfl
  kind_member _ := rfl
  modifiers_member _ := rfl
  parameters_member _ := rfl
  name_parameter _ := rfl

namespace Element

theorem access_unplaced (e : Element) (property : String) :
    e.unplaced.access property = e.access property :=
  MemberChange.unplaced.access_eq e.members_unplaced property

theorem properties_unplaced (e : Element) (unsupported : List Modifier) :
    e.unplaced.properties unsupported = (e.properties unsupported).map Property.unplaced := by
  rw [MemberChange.unplaced.properties_eq e.members_unplaced]
  refine List.map_congr_left fun p listed => ?_
  obtain ⟨field, _, rfl⟩ := List.mem_map.mp listed
  rfl

end Element

namespace PropertyRecord

theorem isDeclaredNullable_unplaced (p : Property) (tr : Translator) :
    p.unplaced.isDeclaredNullable tr = p.isDeclaredNullable tr := by
  obtain ⟨owner, field, getter, parameter⟩ := p
  cases getter <;> cases parameter <;> rfl

theorem ofProperty_unplaced (ctx : Context) (p : Property) :
    ofProperty ctx p.unplaced = ofProperty ctx p := by
  have type : p.unplaced.type ctx.toTranslator = p.type ctx.toTranslator := by
    rw [Property.type, Property.type, isDeclaredNullable_unplaced]
    rfl
  have access : p.unplaced.access = p.access := Element.access_unplaced p.owner p.name
  have getter : p.unplaced.getter.isSome = p.getter.isSome := Option.isSome_map
  have parameter : p.unplaced.parameter.isSome = p.parameter.isSome := Option.isSome_map
  rw [ofProperty, type, access, getter, parameter]
  rfl

theorem ofProperties_unplaced (ctx : Context) (ps : List Property) :
    ofProperties ctx (ps.map Property.unplaced) = ofProperties ctx ps := by
  induction ps with
  | nil => rfl
  | cons p rest ih => rw [List.map_cons, ofProperties, ofProperty_unplaced, ih, ofProperties]

end PropertyRecord

namespace AnnotatedClass

def unplaced (c : AnnotatedClass) : AnnotatedClass := { c with element := c.element.unplaced }

/-- An artifact does not tell where a class stands. -/
theorem serialize_unplaced (ctx : Context) (c : AnnotatedClass) :
    c.unplaced.serialize ctx = c.serialize ctx := by
  have properties : c.unplaced.properties ctx = (c.properties ctx).map Property.unplaced :=
    Element.properties_unplaced c.element ctx.unsupported
  have record : ClassRecord.ofClass ctx c.unplaced = ClassRecord.ofClass ctx c := by
    rw [ClassRecord.ofClass, properties, PropertyRecord.ofProperties_unplaced, ClassRecord.ofClass]
    simp [unplaced, AnnotatedClass.qualifiedName, AnnotatedClass.namespaceName]
  rw [serialize, record, serialize]

end AnnotatedClass
end ClassAtlas
