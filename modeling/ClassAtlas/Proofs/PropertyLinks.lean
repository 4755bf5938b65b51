import ClassAtlas.Proofs.ArtifactRoundTrip
import ClassAtlas.Proofs.Lists

/-!
The properties of a class and their links. What is listed are the supported fields that the
selector admits, each at its own position among the members. A link leads to the first member of its
name. The getter that is looked up when a property is read is the one that was linked when it was
listed.
-/
namespace ClassAtlas

namespace Property

/-- The members of a class that a property is linked to: the first method of the getter's name, and
the first parameter of its own name in the first constructor. -/
structure LinkedIn (e : Element) (p : Property) : Prop where
  getter : ∀ g, p.getter = some g ↔
    IsFirst (fun m => m.kind = .method ∧ m.name = Element.getterName p.name) e.members g
  noGetter : p.getter = none ↔
    ∀ m ∈ e.members, ¬ (m.kind = .method ∧ m.name = Element.getterName p.name)
  parameter : ∀ q, p.parameter = some q ↔
    ∃ c, IsFirst (·.kind = .constructor) e.members c ∧ IsFirst (·.name = p.name) c.parameters q
  noParameter : p.parameter = none ↔
    ∀ c, IsFirst (·.kind = .constructor) e.members c → ∀ q ∈ c.parameters, q.name ≠ p.name

def HasPrivateGetter (p : Property) : Prop := ∃ g, p.getter = some g ∧ .isPrivate ∈ g.modifiers

/-- Every way to ask for a property runs the one handler, and none but it. -/
structure RunsAlways {m : Type → Type} {α : Type} (e : Element) (p : Property)
    (viaGetter direct handler : m α) : Prop where
  byItself : p.reference viaGetter direct = handler
  byProperty : e.reference (.property p) viaGetter direct = handler
  byName : e.reference (.named p.name) viaGetter direct = handler

end Property

namespace Element

variable {e : Element} {unsupported : List Modifier} {selector : Option (Property → Bool)}

theorem isSupported_iff {field : Member} :
    isSupported unsupported field = true ↔ ∀ m ∈ field.modifiers, m ∉ unsupported := by
  simp [isSupported]

theorem getter?_eq_some_iff {property : String} {g : Member} :
    e.getter? property = some g ↔
      IsFirst (fun m => m.kind = .method ∧ m.name = getterName property) e.members g :=
  find?_eq_some_iff_isFirst fun m => by simp

theorem getter?_eq_none_iff {property : String} :
    e.getter? property = none ↔
      ∀ m ∈ e.members, ¬ (m.kind = .method ∧ m.name = getterName property) :=
  find?_eq_none_iff_forall_not fun m => by simp

theorem firstConstructor_iff {c : Member} :
    IsFirst (·.kind = .constructor) e.members c ↔
      e.members.find? (·.kind == .constructor) = some c :=
  (find?_eq_some_iff_isFirst fun m => by simp).symm

theorem find?_constructorParameters_eq_some_iff {name : String} {q : Parameter} :
    e.constructorParameters.find? (·.name == name) = some q ↔
      ∃ c, IsFirst (·.kind = .constructor) e.members c ∧
        IsFirst (·.name = name) c.parameters q := by
  have named (c : Member) : IsFirst (·.name = name) c.parameters q ↔
      c.parameters.find? (·.name == name) = some q :=
    (find?_eq_some_iff_isFirst fun q => by simp).symm
  simp only [firstConstructor_iff, named]
  rw [constructorParameters]
  cases e.members.find? (·.kind == .constructor) <;> simp

theorem find?_constructorParameters_eq_none_iff {name : String} :
    e.constructorParameters.find? (·.name == name) = none ↔
      ∀ c, IsFirst (·.kind = .constructor) e.members c → ∀ q ∈ c.parameters, q.name ≠ name := by
  rw [find?_eq_none_iff_forall_not fun q => beq_iff_eq]
  simp only [firstConstructor_iff]
  rw [constructorParameters]
  cases e.members.find? (·.kind == .constructor) <;> simp

/-- A field is listed with the links that the class has for its name. -/
theorem linkedIn_propertyOf (field : Member) : (e.propertyOf field).LinkedIn e where
  getter _ := getter?_eq_some_iff
  noGetter := getter?_eq_none_iff
  parameter _ := find?_constructorParameters_eq_some_iff
  noParameter := find?_constructorParameters_eq_none_iff

/-- The properties are those of the members that pass both filters. -/
theorem propertiesWhere_eq (e : Element) (unsupported : List Modifier)
    (selector : Option (Property → Bool)) : e.propertiesWhere unsupported selector =
      (e.members.filter fun m => (m.kind == .field && isSupported unsupported m) &&
        selector.all fun admits => admits (e.propertyOf m)).map e.propertyOf := by
  rw [propertiesWhere, properties, List.filter_map, List.filter_filter]
  simp only [Function.comp_def, Bool.and_comm]

theorem exists_propertyOf_of_mem {p : Property}
    (listed : p ∈ e.propertiesWhere unsupported selector) : ∃ field, p = e.propertyOf field := by
  rw [propertiesWhere_eq] at listed
  obtain ⟨field, _, rfl⟩ := List.mem_map.mp listed
  exact ⟨field, rfl⟩

/-- The listed properties have the fields at the positions of those members that are supported and
admitted. -/
theorem exists_positions (e : Element) (unsupported : List Modifier)
    (selector : Option (Property → Bool)) :
    ∃ positions : List Nat, positions.Pairwise (· < ·) ∧
      (∀ i, i ∈ positions ↔ ∃ m, e.members[i]? = some m ∧ m.kind = .field ∧
        (∀ x ∈ m.modifiers, x ∉ unsupported) ∧
        ∀ admits, selector = some admits → admits (e.propertyOf m) = true) ∧
      List.Forall₂ (fun i p => e.members[i]? = some p.field) positions
        (e.propertiesWhere unsupported selector) := by
  rw [propertiesWhere_eq]
  obtain ⟨positions, increasing, passes, each⟩ := exists_positions_of_filter
    (fun m => (m.kind == .field && isSupported unsupported m) &&
      selector.all fun admits => admits (e.propertyOf m)) e.members
  refine ⟨positions, increasing, fun i => ?_, List.forall₂_map_right_iff.mpr each⟩
  rw [passes]
  refine exists_congr fun m => and_congr_right fun _ => ?_
  rw [Bool.and_eq_true, Bool.and_eq_true, beq_iff_eq, isSupported_iff, and_assoc]
  refine and_congr_right fun _ => and_congr_right fun _ => ?_
  rw [Option.all_eq_true]

/-- The getter is looked up again by the same name, so that it is the one that was linked. -/
theorem access_eq_viaGetter_iff (field : Member) :
    e.access field.name = .viaGetter ↔ (e.propertyOf field).HasPrivateGetter := by
  rw [access, Property.HasPrivateGetter, propertyOf]
  cases e.getter? field.name with
  | none => simp
  | some g => simp

section Reference

variable {m : Type → Type} {α : Type} {field : Member} {viaGetter direct : m α}

theorem reference_of_private {key : PropertyKey} (named : key.name = field.name)
    (isPrivate : (e.propertyOf field).HasPrivateGetter) :
    e.reference key viaGetter direct = viaGetter := by
  rw [reference, named, (access_eq_viaGetter_iff field).mpr isPrivate]

theorem reference_of_not_private {key : PropertyKey} (named : key.name = field.name)
    (isOpen : ¬ (e.propertyOf field).HasPrivateGetter) :
    e.reference key viaGetter direct = direct := by
  rw [← access_eq_viaGetter_iff] at isOpen
  rw [reference, named]
  cases way : e.access field.name with
  | viaGetter => exact absurd way isOpen
  | direct => rfl

theorem runsAlways_of_private (isPrivate : (e.propertyOf field).HasPrivateGetter) :
    (e.propertyOf field).RunsAlways e viaGetter direct viaGetter :=
  ⟨reference_of_private rfl isPrivate, reference_of_private rfl isPrivate,
    reference_of_private rfl isPrivate⟩

theorem runsAlways_of_not_private (isOpen : ¬ (e.propertyOf field).HasPrivateGetter) :
    (e.propertyOf field).RunsAlways e viaGetter direct direct :=
  ⟨reference_of_not_private rfl isOpen, reference_of_not_private rfl isOpen,
    reference_of_not_private rfl isOpen⟩

end Reference
end Element

/-- A record of a property that is read through its getter says that there is one. -/
theorem PropertyRecord.getter_of_access {ctx : Context} {e : Element} {field : Member}
    {r : PropertyRecord} (describes : r.Describes ctx (e.propertyOf field))
    (read : r.access = .viaGetter) : r.getter = true := by
  have isPrivate : (e.propertyOf field).HasPrivateGetter :=
    (Element.access_eq_viaGetter_iff field).mp (describes.access.symm.trans read)
  obtain ⟨g, linked, _⟩ := isPrivate
  rw [describes.getter, linked]
  rfl

namespace Element

/-- What a class lists are its fields without unsupported modifiers that the selector admits, in the
order of the members and each once. Every property is linked to the first method of the getter's
name and to the first parameter of its own name in the first constructor, as far as these exist.
However it is asked for, the one handler is run that fits the linked getter, and an artifact never
tells to read a property through a getter that it does not have. -/
theorem properties_of_class (e : Element) (unsupported : List Modifier)
    (selector : Option (Property → Bool)) :
    (∃ positions : List Nat, positions.Pairwise (· < ·) ∧
      (∀ i, i ∈ positions ↔ ∃ m, e.members[i]? = some m ∧ m.kind = .field ∧
        (∀ x ∈ m.modifiers, x ∉ unsupported) ∧
        ∀ admits, selector = some admits → admits (e.propertyOf m) = true) ∧
      List.Forall₂ (fun i p => e.members[i]? = some p.field) positions
        (e.propertiesWhere unsupported selector)) ∧
    (∀ p ∈ e.propertiesWhere unsupported selector, p.LinkedIn e ∧
      ∀ (m : Type → Type) (α : Type) (viaGetter direct : m α),
        (p.HasPrivateGetter → p.RunsAlways e viaGetter direct viaGetter) ∧
        (¬ p.HasPrivateGetter → p.RunsAlways e viaGetter direct direct)) ∧
    ∀ ctx internal record, (ClassRecord.ofClass ctx ⟨e, internal⟩).outcome = .ok record →
      ∀ r ∈ record.properties, r.access = .viaGetter → r.getter = true := by
  refine ⟨exists_positions e unsupported selector, fun p listed => ?_, ?_⟩
  · obtain ⟨field, rfl⟩ := exists_propertyOf_of_mem listed
    refine ⟨linkedIn_propertyOf field, fun m α viaGetter direct => ?_⟩
    exact ⟨runsAlways_of_private, runsAlways_of_not_private⟩
  · intro ctx internal record done r mem
    have each := (ClassRecord.ofClass_eq_ok_iff.mp done).properties
    obtain ⟨p, listed, describes⟩ := exists_of_mem_of_forall₂ each mem
    obtain ⟨field, _, rfl⟩ := List.mem_map.mp listed
    exact PropertyRecord.getter_of_access describes

end Element
end ClassAtlas
