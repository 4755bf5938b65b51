import ClassAtlas.Artifact.Reading
import ClassAtlas.Proofs.CheckedDepth
import ClassAtlas.Proofs.FirstFailure
import ClassAtlas.Proofs.TargetEncoding

/-!
Artifacts are read back as they were written. The text of a class is one line of printable ASCII;
reading it gives the members that were written, and of every property the translated type. Only
types that nest deeper than the reader goes are not read.
-/
namespace ClassAtlas

/-- What a record says of a property is what the property answers itself. -/
structure PropertyRecord.Describes (ctx : Context) (p : Property) (r : PropertyRecord) : Prop where
  name : r.name = p.name
  type : (p.type ctx.toTranslator).outcome = .ok r.type
  collection : r.collection = p.reflected.isCollection ctx.host
  map : r.map = p.reflected.isMap ctx.host
  access : r.access = p.access
  getter : r.getter = p.getter.isSome
  parameter : r.parameter = p.parameter.isSome

/-- What a record says of a class, its properties in order. -/
structure ClassRecord.Describes (ctx : Context) (c : AnnotatedClass) (r : ClassRecord) : Prop where
  name : r.name = c.qualifiedName
  namespaceName : r.namespaceName = c.namespaceName
  internal : r.internal = c.internal
  properties : List.Forall₂ (PropertyRecord.Describes ctx) (c.properties ctx) r.properties

namespace PropertyRecord

variable {ctx : Context}

theorem ofProperty_eq_ok_iff {p : Property} {r : PropertyRecord} :
    (ofProperty ctx p).outcome = .ok r ↔ r.Describes ctx p := by
  rw [ofProperty, Traced.outcome_bind_eq_ok]
  constructor
  · rintro ⟨t, typed, last⟩
    cases last
    exact ⟨rfl, typed, rfl, rfl, rfl, rfl, rfl⟩
  · intro same
    refine ⟨r.type, same.type, ?_⟩
    obtain ⟨name, type, collection, map, access, getter, parameter⟩ := r
    cases same.name
    cases same.collection
    cases same.map
    cases same.access
    cases same.getter
    cases same.parameter
    rfl

theorem ofProperties_eq_ok_iff {ps : List Property} {rs : List PropertyRecord} :
    (ofProperties ctx ps).outcome = .ok rs ↔ List.Forall₂ (Describes ctx) ps rs := by
  induction ps generalizing rs with
  | nil =>
      rw [ofProperties, List.forall₂_nil_left_iff, Traced.outcome_pure]
      exact ⟨fun done => (Except.ok.inj done).symm, fun done => done ▸ rfl⟩
  | cons p ps ih =>
      rw [ofProperties, Traced.outcome_bind_eq_ok, List.forall₂_cons_left_iff]
      constructor
      · rintro ⟨r, first, rest⟩
        obtain ⟨rs, others, last⟩ := Traced.outcome_bind_eq_ok.mp rest
        cases last
        exact ⟨r, rs, ofProperty_eq_ok_iff.mp first, ih.mp others, rfl⟩
      · rintro ⟨r, rs, first, others, rfl⟩
        refine ⟨r, ofProperty_eq_ok_iff.mpr first, Traced.outcome_bind_eq_ok.mpr ?_⟩
        exact ⟨rs, ih.mpr others, rfl⟩

/-- Properties that translate have records. -/
theorem exists_describes {ps : List Property}
    (translates : ∀ p ∈ ps, ∃ t, (p.type ctx.toTranslator).outcome = .ok t) :
    ∃ rs, List.Forall₂ (Describes ctx) ps rs := by
  induction ps with
  | nil => exact ⟨[], .nil⟩
  | cons p ps ih =>
      obtain ⟨⟨t, typed⟩, others⟩ := List.forall_mem_cons.mp translates
      obtain ⟨rs, each⟩ := ih others
      refine ⟨⟨p.name, t, _, _, _, _, _⟩ :: rs, .cons ⟨rfl, typed, rfl, rfl, rfl, rfl, rfl⟩ each⟩

/-- The types of records nest no deeper than the fields they stand for. -/
theorem depth_le_of_describes {ps : List Property} {rs : List PropertyRecord} {levels : Nat}
    (each : List.Forall₂ (Describes ctx) ps rs) (shallow : ∀ p ∈ ps, p.source.depth ≤ levels) :
    ∀ r ∈ rs, r.type.depth ≤ levels := by
  induction each with
  | nil => simp
  | cons head _ ih =>
      obtain ⟨first, others⟩ := List.forall_mem_cons.mp shallow
      refine List.forall_mem_cons.mpr ⟨?_, ih others⟩
      exact Nat.le_trans (Property.depth_le_of_type head.type) first

def asRead (r : PropertyRecord) : Artifact.PropertyRead := ⟨r.members, r.type⟩

theorem property_toJson (r : PropertyRecord) : Artifact.property r.toJson = .ok r.asRead := by
  have found : Json.find? "type" r.members = some r.type.encode := rfl
  simp only [toJson, Artifact.property, found, TargetType.decode_encode]
  rfl

theorem mapM_property_map_toJson (rs : List PropertyRecord) :
    (rs.map toJson).mapM Artifact.property = .ok (rs.map asRead) := by
  rw [FirstFailure.mapM_eq_ok_iff, List.forall₂_map_left_iff, List.forall₂_map_right_iff,
    List.forall₂_same]
  exact fun r _ => property_toJson r

theorem within_toJson {r : PropertyRecord} {levels : Nat} (fits : r.type.depth ≤ levels) :
    Json.Within (2 * levels + 1) r.toJson := by
  have encoded := (TargetType.within_encode r.type).mono (show _ ≤ 2 * levels by omega)
  refine .obj (by simp [members]) ?_
  simp only [members, List.forall_mem_cons, List.not_mem_nil, false_implies, implies_true, and_true]
  exact ⟨.str _ _, encoded, .bool _ _, .bool _ _, .str _ _, .bool _ _, .bool _ _⟩

end PropertyRecord

namespace ClassRecord

theorem ofClass_eq_ok_iff {ctx : Context} {c : AnnotatedClass} {r : ClassRecord} :
    (ofClass ctx c).outcome = .ok r ↔ r.Describes ctx c := by
  rw [ofClass, Traced.outcome_bind_eq_ok]
  constructor
  · rintro ⟨rs, each, last⟩
    cases last
    exact ⟨rfl, rfl, rfl, PropertyRecord.ofProperties_eq_ok_iff.mp each⟩
  · intro same
    refine ⟨r.properties, PropertyRecord.ofProperties_eq_ok_iff.mpr same.properties, ?_⟩
    obtain ⟨name, namespaceName, internal, properties⟩ := r
    cases same.name
    cases same.namespaceName
    cases same.internal
    rfl

/-- A class as its artifact is read: each property with its type in place of the encoded one. -/
def asRead (r : ClassRecord) : Artifact.Read :=
  ⟨r.members, r.properties.map PropertyRecord.asRead⟩

theorem ofJson_toJson (r : ClassRecord) : Artifact.ofJson r.toJson = .ok r.asRead := by
  have version : Json.find? "v" r.members = some (.str Artifact.formatVersion) := rfl
  have listed : Json.find? "properties" r.members =
      some (.arr (r.properties.map PropertyRecord.toJson)) := rfl
  simp only [toJson, Artifact.ofJson, version, listed, Artifact.properties,
    PropertyRecord.mapM_property_map_toJson]
  rfl

/-- The levels of the deepest type of a record. -/
def typeDepth (r : ClassRecord) : Nat := TargetType.argumentsDepth (r.properties.map (·.type))

theorem within_toJson (r : ClassRecord) : Json.Within (2 * r.typeDepth + 3) r.toJson := by
  have each : ∀ v ∈ r.properties.map PropertyRecord.toJson,
      Json.Within (2 * r.typeDepth + 1) v := by
    intro v mem
    obtain ⟨p, listed, rfl⟩ := List.mem_map.mp mem
    have deepest := TargetType.argumentsDepth_le_iff.mp (Nat.le_refl r.typeDepth)
    exact PropertyRecord.within_toJson (deepest p.type (List.mem_map_of_mem listed))
  refine .obj (by simp [members]) ?_
  simp only [members, List.forall_mem_cons, List.not_mem_nil, false_implies, implies_true, and_true]
  exact ⟨.str _ _, .str _ _, .str _ _, .bool _ _, .arr each⟩

/-- A reader that admits the nesting of an artifact reads it. -/
theorem readWithin_serialize (r : ClassRecord) {limit : Nat} (fits : 2 * r.typeDepth + 3 ≤ limit) :
    Artifact.readWithin limit r.serialize = .ok r.asRead := by
  have parsed := Json.parseWithin_compact r.within_toJson fits
  rw [Artifact.readWithin, serialize, parsed]
  exact r.ofJson_toJson

theorem printable_of_mem_serialize (r : ClassRecord) :
    ∀ ch ∈ r.serialize.toList, Json.Printable ch := by
  rw [serialize, Json.compact, String.toList_ofList]
  exact Json.printable_of_mem_value r.within_toJson

theorem Describes.typeDepth_le {ctx : Context} {c : AnnotatedClass} {r : ClassRecord} {levels : Nat}
    (same : r.Describes ctx c) (shallow : ∀ p ∈ c.properties ctx, p.source.depth ≤ levels) :
    r.typeDepth ≤ levels := by
  rw [typeDepth, TargetType.argumentsDepth_le_iff, List.forall_mem_map]
  exact PropertyRecord.depth_le_of_describes same.properties shallow

end ClassRecord

namespace AnnotatedClass

theorem serialize_of_describes {ctx : Context} {c : AnnotatedClass} {r : ClassRecord}
    (same : r.Describes ctx c) : (c.serialize ctx).outcome = .ok r.serialize :=
  Traced.outcome_bind_eq_ok.mpr ⟨r, ClassRecord.ofClass_eq_ok_iff.mpr same, rfl⟩

theorem exists_describes {ctx : Context} {c : AnnotatedClass}
    (translates : ∀ p ∈ c.properties ctx, ∃ t, (p.type ctx.toTranslator).outcome = .ok t) :
    ∃ record : ClassRecord, record.Describes ctx c := by
  obtain ⟨records, each⟩ := PropertyRecord.exists_describes translates
  exact ⟨⟨c.qualifiedName, c.namespaceName, c.internal, records⟩, rfl, rfl, rfl, each⟩

/-- Types that nest no deeper than a document may are within the depth of the standard reader. -/
theorem read_serialize_of_depth_le {ctx : Context} {c : AnnotatedClass} {record : ClassRecord}
    (same : record.Describes ctx c)
    (shallow : ∀ p ∈ c.properties ctx, p.source.depth ≤ Check.Nest.limit) :
    Artifact.read record.serialize = .ok record.asRead := by
  have levels := same.typeDepth_le shallow
  rw [Check.Nest.limit] at levels
  refine record.readWithin_serialize ?_
  rw [Json.readingDepth]
  omega

/-- A class whose properties translate has an artifact, a line of printable ASCII. It is read back
with the translated types by every reader that admits its nesting, and by the standard reader when
no field nests deeper than a document may. -/
theorem read_serialize (ctx : Context) (c : AnnotatedClass)
    (translates : ∀ p ∈ c.properties ctx, ∃ t, (p.type ctx.toTranslator).outcome = .ok t) :
    ∃ (record : ClassRecord) (text : String),
      (ClassRecord.ofClass ctx c).outcome = .ok record ∧ record.Describes ctx c ∧
      (c.serialize ctx).outcome = .ok text ∧
      (∀ ch ∈ text.toList, Json.Printable ch) ∧
      (∀ limit, 2 * record.typeDepth + 3 ≤ limit →
        Artifact.readWithin limit text = .ok record.asRead) ∧
      ((∀ p ∈ c.properties ctx, p.source.depth ≤ Check.Nest.limit) →
        Artifact.read text = .ok record.asRead) := by
  obtain ⟨record, same⟩ := exists_describes translates
  have written := ClassRecord.ofClass_eq_ok_iff.mpr same
  refine ⟨record, record.serialize, written, same, serialize_of_describes same, ?_, ?_, ?_⟩
  · exact record.printable_of_mem_serialize
  · exact fun limit fits => record.readWithin_serialize fits
  · exact fun shallow => read_serialize_of_depth_le same shallow

/-- A class with a name to escape and a field of a nested type. -/
def ofQuotedName : AnnotatedClass :=
  let field : VariableDecl :=
    ⟨"a\"\\𝄞", .parameterized "java.util.List" [.wildcard .producer (some (.bare "é.T")) []] [],
      [], []⟩
  ⟨.type (.ofDecl 0 ⟨"é.\nC", .plainClass, none, [], [], [], [field], [], []⟩), true⟩

theorem read_serialize_ofQuotedName :
    let ctx : Context := ⟨⟨⟨[], []⟩, .standard, []⟩, []⟩
    ∃ (record : ClassRecord) (text : String), record.Describes ctx ofQuotedName ∧
      (ofQuotedName.serialize ctx).outcome = .ok text ∧ Artifact.read text = .ok record.asRead ∧
      record.properties.length = 1 := by
  intro ctx
  have translates : ∀ p ∈ ofQuotedName.properties ctx,
      ∃ t, (p.type ctx.toTranslator).outcome = .ok t := by
    intro p mem
    cases mem with
    | head => exact ⟨_, rfl⟩
    | tail _ mem => cases mem
  obtain ⟨record, text, _, same, written, _, _, read⟩ := read_serialize ctx ofQuotedName translates
  refine ⟨record, text, same, written, read ?_, same.properties.length_eq.symm⟩
  intro p mem
  cases mem with
  | head => decide
  | tail _ mem => cases mem

/-- The classes of a checked document have artifacts that the standard reader reads back. -/
theorem read_serialize_of_checked {v : Value} {d : Declarations} {withStandard : Bool}
    (passed : Declarations.check v = .pass d) {ctx : Context} {c : AnnotatedClass}
    {t : TypeDeclaration} (declared : c.element = .type t)
    (listed : t ∈ (Host.ofDeclarations d withStandard).classes)
    (translates : ∀ p ∈ c.properties ctx, ∃ t, (p.type ctx.toTranslator).outcome = .ok t) :
    ∃ (record : ClassRecord) (text : String), record.Describes ctx c ∧
      (c.serialize ctx).outcome = .ok text ∧ Artifact.read text = .ok record.asRead := by
  obtain ⟨record, same⟩ := exists_describes translates
  refine ⟨record, record.serialize, same, serialize_of_describes same, ?_⟩
  refine read_serialize_of_depth_le same ?_
  have shallow := Host.depth_le_of_mem_properties withStandard passed listed ctx.unsupported
  rw [← declared] at shallow
  exact shallow

end AnnotatedClass
end ClassAtlas
