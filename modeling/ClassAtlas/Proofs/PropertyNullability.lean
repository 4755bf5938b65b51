import ClassAtlas.Proofs.HostAgreement
import ClassAtlas.Proofs.PropertyLinks
import ClassAtlas.Proofs.TranslationShape

/-!
The null mark of the type of a property. Five places are looked at for a marker: the occurrence of
the field's type, the declaration it resolves to, the field, its getter and its parameter. The
annotations of an occurrence itself and those of members decide on that one mark and on nothing else
in the type.
-/
namespace ClassAtlas

namespace TargetType

variable {t : TargetType}

theorem withNullable_withNullable (first last : Bool) :
    (t.withNullable first).withNullable last = t.withNullable last := by
  cases t <;> rfl

theorem withNullable_of_isProjection (projection : t.isProjection = true) (nullable : Bool) :
    t.withNullable nullable = t := by
  cases t with
  | named => cases projection
  | projection variance bound => rfl

theorem isNullable_withNullable (isClass : t.isProjection = false) (nullable : Bool) :
    (t.withNullable nullable).isNullable = nullable := by
  cases t with
  | named => rfl
  | projection => cases isClass

end TargetType

namespace SourceType

/-- An occurrence without annotations of its own; those of its parts stay. -/
def unannotated : SourceType → SourceType
  | .plain name _ => .plain name []
  | .parameterized name arguments _ => .parameterized name arguments []
  | .wildcard variance bound _ => .wildcard variance bound []
  | .array component _ => .array component []

theorem isWildcard_unannotated (t : SourceType) : t.unannotated.isWildcard = t.isWildcard := by
  cases t <;> rfl

end SourceType

namespace Translator

variable {tr : Translator}

/-- A marker is among the annotations. -/
def Marks (tr : Translator) (annotations : List AnnotationUse) : Prop :=
  ∃ a ∈ annotations, a.kind ∈ tr.markers

theorem hasMarker_iff {annotations : List AnnotationUse} :
    tr.hasMarker annotations = true ↔ tr.Marks annotations := by
  simp [hasMarker, Marks]

theorem isNullable_iff {t : SourceType} : tr.isNullable t = true ↔
    tr.Marks t.annotations ∨ ∃ d, tr.host.declarationOf? t = some d ∧ tr.Marks d.annotations := by
  rw [isNullable, Bool.or_eq_true, hasMarker_iff, Option.any_eq_true]
  simp only [hasMarker_iff]

theorem exists_named_of_applied (name : String) (targets : List TargetType) :
    ∃ own inner, applied name targets = .named own inner false := by
  by_cases array : IsArrayOf (isPlainByte · = true) name targets
  · exact ⟨_, _, applied_of_isArrayOf array⟩
  · exact ⟨_, _, applied_of_not_isArrayOf array⟩

/-- The last occurrence that marks a class decides on its mark. -/
theorem marked_applied (t u : SourceType) (name : String) (targets : List TargetType) :
    tr.marked t (applied name targets) =
      (tr.marked u (applied name targets)).withNullable (tr.isNullable t) := by
  obtain ⟨own, inner, same⟩ := exists_named_of_applied name targets
  rw [same, marked_named, marked_named]
  rfl

theorem outcome_finished_eq_withNullable (t u : SourceType) (name : String)
    (targets : List TargetType) : (tr.finished t (applied name targets)).outcome =
      (tr.finished u (applied name targets)).outcome.map (·.withNullable (tr.isNullable t)) :=
  congrArg Except.ok (marked_applied t u name targets)

/-- What an occurrence becomes is what it becomes without annotations of its own, under its null
mark. -/
theorem outcome_translate_eq_withNullable (t : SourceType) : (tr.translate t).outcome =
    (tr.translate t.unannotated).outcome.map (·.withNullable (tr.isNullable t)) := by
  have unchanged {α : Type} (x : Traced α) : x.outcome = x.outcome.map id := by
    cases x.outcome <;> rfl
  cases t with
  | plain name as => exact outcome_finished_eq_withNullable (.plain name as) _ _ []
  | parameterized name arguments as =>
      rw [SourceType.unannotated, translate, translate]
      exact Traced.outcome_bind_eq_map (unchanged _) fun targets =>
        outcome_finished_eq_withNullable (.parameterized name arguments as) _ _ targets
  | array component as =>
      rw [SourceType.unannotated, translate, translate]
      exact Traced.outcome_bind_eq_map (unchanged _) fun target =>
        outcome_finished_eq_withNullable (.array component as) _ _ [target]
  | wildcard variance bound as =>
      have same : (tr.translate (.wildcard variance bound as)).outcome =
          (tr.translate (.wildcard variance bound [])).outcome := by
        cases bound <;> rw [translate, translate]
      rw [same, SourceType.unannotated]
      cases done : (tr.translate (.wildcard variance bound [])).outcome with
      | error e => rfl
      | ok target =>
          have projection := isProjection_of_translate done
          exact congrArg Except.ok (TargetType.withNullable_of_isProjection projection _).symm

end Translator

namespace Property

variable {tr : Translator} {p : Property}

theorem outcome_type (p : Property) (tr : Translator) : (p.type tr).outcome =
    (tr.translate p.source).outcome.map fun target =>
      if p.isDeclaredNullable tr then target.withNullable true else target := by
  rw [type]
  cases done : (tr.translate p.source).outcome with
  | error e =>
      rw [Traced.bind_of_error done]
      rfl
  | ok target =>
      rw [Traced.bind_of_ok done]
      rfl

/-- The annotations on the occurrence of its type, and those of its elements, give the type of a
property its null mark and nothing else. -/
theorem outcome_type_eq_withNullable (p : Property) (tr : Translator) : (p.type tr).outcome =
    (tr.translate p.source.unannotated).outcome.map
      (·.withNullable (tr.isNullable p.source || p.isDeclaredNullable tr)) := by
  rw [outcome_type, Translator.outcome_translate_eq_withNullable]
  cases (tr.translate p.source.unannotated).outcome with
  | error e => rfl
  | ok target =>
      refine congrArg Except.ok ?_
      change (if p.isDeclaredNullable tr then (target.withNullable _).withNullable true
        else target.withNullable _) = target.withNullable _
      cases p.isDeclaredNullable tr with
      | true => rw [if_pos rfl, TargetType.withNullable_withNullable, Bool.or_true]
      | false => rw [if_neg Bool.false_ne_true, Bool.or_false]

/-- A projection has no mark to set. -/
theorem type_of_isWildcard (wildcard : p.source.isWildcard = true) :
    p.type tr = tr.translate p.source := by
  rw [type]
  cases done : (tr.translate p.source).outcome with
  | error e => rw [Traced.bind_of_error done, ← done]
  | ok target =>
      have projection := (Translator.isProjection_of_translate done).trans wildcard
      rw [Traced.bind_of_ok done, TargetType.withNullable_of_isProjection projection, ite_self,
        Traced.events_pure, Traced.outcome_pure, List.append_nil, ← done]

/-- The mark of a property whose type is a class: that of the occurrence, or one of its elements. -/
theorem isNullable_of_type (isClass : p.source.isWildcard = false) {target : TargetType}
    (done : (p.type tr).outcome = .ok target) :
    target.isNullable = (tr.isNullable p.source || p.isDeclaredNullable tr) := by
  rw [outcome_type_eq_withNullable] at done
  cases own : (tr.translate p.source.unannotated).outcome with
  | error e =>
      rw [own] at done
      cases done
  | ok bare =>
      rw [own] at done
      cases done
      refine TargetType.isNullable_withNullable ?_ _
      rw [Translator.isProjection_of_translate own, SourceType.isWildcard_unannotated, isClass]

theorem isDeclaredNullable_iff : p.isDeclaredNullable tr = true ↔ tr.Marks p.field.annotations ∨
    (∃ g, p.getter = some g ∧ tr.Marks g.annotations) ∨
      ∃ q, p.parameter = some q ∧ tr.Marks q.annotations := by
  rw [isDeclaredNullable, List.any_eq_true]
  simp only [elements, Translator.hasMarker_iff]
  cases p.getter <;> cases p.parameter <;> simp [Element.annotations, Element.info]

end Property

def Parameter.unannotated (q : Parameter) : Parameter :=
  { q with annotations := [], type := q.type.unannotated }

def Member.unannotated (m : Member) : Member :=
  { m with
    annotations := []
    type := m.type.unannotated
    parameters := m.parameters.map Parameter.unannotated }

/-- A class with its own annotations, but none on members, on parameters of these and on the
occurrences of their types. -/
def TypeDeclaration.withBareMembers (t : TypeDeclaration) : TypeDeclaration :=
  { t with members := t.members.map Member.unannotated }

def MemberChange.unannotated : MemberChange where
  member := Member.unannotated
  parameter := Parameter.unannotated
  name_member _ := rfl
  kind_member _ := rfl
  modifiers_member _ := rfl
  parameters_member _ := rfl
  name_parameter _ := rfl

namespace Element

def withBareMembers : Element → Element
  | type t => .type t.withBareMembers
  | member m => .member m
  | parameter q => .parameter q

theorem members_withBareMembers (e : Element) :
    e.withBareMembers.members = e.members.map Member.unannotated := by
  cases e <;> rfl

/-- Classes that are the same apart from annotations of members list the same properties. -/
theorem forall₂_properties {e e' : Element} (same : e'.withBareMembers = e.withBareMembers)
    (unsupported : List Modifier) :
    List.Forall₂ (fun p p' => p'.field.unannotated = p.field.unannotated)
      (e.properties unsupported) (e'.properties unsupported) := by
  let bare (p : Property) := MemberChange.unannotated.property e.withBareMembers p
  have listed : (e.properties unsupported).map bare = (e'.properties unsupported).map bare := by
    have one := MemberChange.unannotated.properties_eq e.members_withBareMembers unsupported
    have other := MemberChange.unannotated.properties_eq e'.members_withBareMembers unsupported
    rw [same] at other
    exact one.symm.trans other
  rw [← List.forall₂_eq_eq_eq, List.forall₂_map_left_iff, List.forall₂_map_right_iff] at listed
  exact listed.imp fun _ _ alike => congrArg Property.field alike.symm

end Element

namespace Host

def withBareMembers (h : Host) : Host where
  known := h.known.map TypeDeclaration.withBareMembers
  classes := h.classes.map TypeDeclaration.withBareMembers

theorem named_map_withBareMembers (name : String) (types : List TypeDeclaration) :
    named name (types.map TypeDeclaration.withBareMembers) =
      (named name types).map TypeDeclaration.withBareMembers := by
  rw [named, List.find?_map]
  rfl

theorem declarationOf?_withBareMembers (h : Host) (t : SourceType) :
    h.withBareMembers.declarationOf? t =
      (h.declarationOf? t).map TypeDeclaration.withBareMembers := by
  rw [declarationOf?, declarationOf?]
  cases t.rawName? with
  | none => rfl
  | some name =>
      rw [Option.bind_some, Option.bind_some, typeNamed?, withBareMembers, ← List.map_reverse,
        named_map_withBareMembers, named_map_withBareMembers, typeNamed?, Option.map_or]

end Host

namespace Translator

theorem isNullable_withBareMembers (tr : Translator) (t : SourceType) :
    Translator.isNullable { tr with host := tr.host.withBareMembers } t = tr.isNullable t := by
  rw [isNullable, Host.declarationOf?_withBareMembers, Option.any_map]
  rfl

/-- Annotations of members do not count for the translation of a type. -/
theorem translate_of_withBareMembers {tr tr' : Translator} (table : tr'.table = tr.table)
    (markers : tr'.markers = tr.markers)
    (hosts : tr'.host.withBareMembers = tr.host.withBareMembers) (t : SourceType) :
    tr'.translate t = tr.translate t := by
  refine translate_congr table (fun u => ?_) t
  rw [← isNullable_withBareMembers tr', ← isNullable_withBareMembers tr]
  simp only [isNullable, hasMarker, hosts, markers]

end Translator

/-- Fields that are the same apart from annotations, under hosts that are so, have types that are
the same apart from the null mark. -/
theorem Property.exists_withNullable {tr tr' : Translator} (table : tr'.table = tr.table)
    (markers : tr'.markers = tr.markers)
    (hosts : tr'.host.withBareMembers = tr.host.withBareMembers) {p p' : Property}
    (same : p'.field.unannotated = p.field.unannotated) :
    ∃ nullable, (p'.type tr').outcome = (p.type tr).outcome.map (·.withNullable nullable) := by
  have source : p'.source.unannotated = p.source.unannotated :=
    congrArg (fun m : Member => m.type) same
  refine ⟨tr'.isNullable p'.source || p'.isDeclaredNullable tr', ?_⟩
  rw [p'.outcome_type_eq_withNullable, p.outcome_type_eq_withNullable, source,
    Translator.translate_of_withBareMembers table markers hosts]
  cases (tr.translate p.source.unannotated).outcome with
  | error e => rfl
  | ok target => exact congrArg Except.ok (TargetType.withNullable_withNullable ..).symm

/-- The type of a property, if it is no projection, admits null exactly when a marker is among the
annotations of the occurrence of the field's type, of the declaration that this resolves to, of the
field, of the first method of the getter's name, or of the parameter of its name in the first
constructor. Whatever else the occurrence and the members have for annotations, no type of a
property differs in more than this mark; a projection has none and is the translation of the
field's type. -/
theorem Element.markers_decide_nullability (tr : Translator) (e : Element)
    (unsupported : List Modifier) :
    (∀ p ∈ e.properties unsupported,
      (p.source.isWildcard = false → ∀ target, (p.type tr).outcome = .ok target →
        (target.isNullable = true ↔ tr.Marks p.source.annotations ∨
          (∃ d, tr.host.declarationOf? p.source = some d ∧ tr.Marks d.annotations) ∨
          tr.Marks p.field.annotations ∨
          (∃ g, IsFirst (fun m => m.kind = .method ∧ m.name = getterName p.name) e.members g ∧
            tr.Marks g.annotations) ∨
          ∃ c q, IsFirst (·.kind = .constructor) e.members c ∧
            IsFirst (·.name = p.name) c.parameters q ∧ tr.Marks q.annotations)) ∧
      (p.source.isWildcard = true → p.type tr = tr.translate p.source)) ∧
    ∀ (tr' : Translator) (e' : Element), tr'.table = tr.table → tr'.markers = tr.markers →
      tr'.host.withBareMembers = tr.host.withBareMembers →
      e'.withBareMembers = e.withBareMembers →
      List.Forall₂ (fun p p' => p'.name = p.name ∧ ∃ nullable,
          (p'.type tr').outcome = (p.type tr).outcome.map (·.withNullable nullable))
        (e.properties unsupported) (e'.properties unsupported) := by
  refine ⟨fun p listed => ⟨fun isClass target done => ?_, Property.type_of_isWildcard⟩, ?_⟩
  · obtain ⟨field, _, rfl⟩ := List.mem_map.mp listed
    have linked := linkedIn_propertyOf (e := e) field
    rw [Property.isNullable_of_type isClass done, Bool.or_eq_true, Translator.isNullable_iff,
      Property.isDeclaredNullable_iff, or_assoc]
    simp only [linked.getter, linked.parameter]
    refine or_congr_right (or_congr_right (or_congr_right (or_congr_right ?_)))
    constructor
    · rintro ⟨q, ⟨c, first, named⟩, marked⟩
      exact ⟨c, q, first, named, marked⟩
    · rintro ⟨c, q, first, named, marked⟩
      exact ⟨q, ⟨c, first, named⟩, marked⟩
  · intro tr' e' table markers hosts same
    refine (forall₂_properties same unsupported).imp fun p p' fields => ?_
    have named := congrArg (fun m : Member => m.name) fields
    exact ⟨named, Property.exists_withNullable table markers hosts fields⟩

/-- A class that holds an array of bytes, with annotations on that occurrence and on the parameter
of its constructor. -/
def holder (onType onParameter : List AnnotationUse) : ClassDecl where
  name := "a.Holder"
  kind := .plainClass
  givenNamespace := none
  modifiers := []
  annotations := []
  supertypes := []
  fields := [⟨"data", .array (.bare "byte") onType, [], []⟩]
  constructors := [⟨[⟨"data", .bare "byte", [], onParameter⟩], [], []⟩]
  methods := []

/-- A marker on the parameter in the place of an annotation on the type that is none. -/
theorem Element.markers_decide_nullability_holder :
    let c := holder [⟨"a.Fixed", []⟩] []
    let c' := holder [] [⟨"a.Null", []⟩]
    let tr : Translator := ⟨.ofDeclarations ⟨[c]⟩ false, .standard, ["a.Null"]⟩
    let tr' : Translator := ⟨.ofDeclarations ⟨[c']⟩ false, .standard, ["a.Null"]⟩
    let e : Element := .type (.ofDecl 0 c)
    let e' : Element := .type (.ofDecl 0 c')
    (e.properties []).map (fun p => (p.type tr).outcome.toOption) =
      [some (.named "kotlin.ByteArray" [] false)] ∧
    (e'.properties []).map (fun p => (p.type tr').outcome.toOption) =
      [some (.named "kotlin.ByteArray" [] true)] ∧
    List.Forall₂ (fun p p' => p'.name = p.name ∧ ∃ nullable,
        (p'.type tr').outcome = (p.type tr).outcome.map (·.withNullable nullable))
      (e.properties []) (e'.properties []) := by
  intro c c' tr tr' e e'
  exact ⟨rfl, rfl, (markers_decide_nullability tr e []).2 tr' e' rfl rfl rfl rfl⟩

end ClassAtlas
