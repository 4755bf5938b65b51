import ClassAtlas.Property

/-!
Changes of members that keep what members are found by: their names, kinds and modifiers, and the
names of their parameters. A class with changed members has the same properties, with the changed
members for links.
-/
namespace ClassAtlas

structure MemberChange where
  member : Member → Member
  parameter : Parameter → Parameter
  name_member : ∀ m, (member m).name = m.name
  kind_member : ∀ m, (member m).kind = m.kind
  modifiers_member : ∀ m, (member m).modifiers = m.modifiers
  parameters_member : ∀ m, (member m).parameters = m.parameters.map parameter
  name_parameter : ∀ q, (parameter q).name = q.name

namespace MemberChange

/-- A property of the class with changed members. -/
def property (c : MemberChange) (owner : Element) (p : Property) : Property where
  owner := owner
  field := c.member p.field
  getter := p.getter.map c.member
  parameter := p.parameter.map c.parameter

variable (c : MemberChange) {e e' : Element} (changed : e'.members = e.members.map c.member)
include changed

theorem getter?_eq (property : String) :
    e'.getter? property = (e.getter? property).map c.member := by
  rw [Element.getter?, changed, List.find?_map, Element.getter?]
  simp only [Function.comp_def, c.kind_member, c.name_member]

theorem access_eq (property : String) : e'.access property = e.access property := by
  rw [Element.access, c.getter?_eq changed, Element.access]
  cases e.getter? property with
  | none => rfl
  | some g => simp only [Option.map_some, c.modifiers_member]

theorem constructorParameters_eq :
    e'.constructorParameters = e.constructorParameters.map c.parameter := by
  rw [Element.constructorParameters, changed, List.find?_map, Element.constructorParameters]
  simp only [Function.comp_def, c.kind_member]
  cases e.members.find? (·.kind == .constructor) with
  | none => rfl
  | some m => exact c.parameters_member m

theorem propertyOf_eq (field : Member) :
    e'.propertyOf (c.member field) = c.property e' (e.propertyOf field) := by
  rw [Element.propertyOf, c.name_member, c.getter?_eq changed, c.constructorParameters_eq changed,
    List.find?_map]
  simp only [Function.comp_def, c.name_parameter]
  rfl

theorem properties_eq (unsupported : List Modifier) :
    e'.properties unsupported = (e.properties unsupported).map (c.property e') := by
  rw [Element.properties, changed, List.filter_map, List.map_map, Element.properties, List.map_map]
  simp only [Function.comp_def, Element.isSupported, c.kind_member, c.modifiers_member,
    c.propertyOf_eq changed]

end MemberChange
end ClassAtlas
