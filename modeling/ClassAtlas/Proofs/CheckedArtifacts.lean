import ClassAtlas.Declarations.Reading
import ClassAtlas.Generator.Basic
import ClassAtlas.Proofs.ArtifactRoundTrip
import ClassAtlas.Proofs.RegistryMembers

/-!
Artifacts of the classes that a discovery finds on a checked document. The standard reader reads
them back, and what it reads states the record that was written, member by member.
-/
namespace ClassAtlas

def Access.ofWord? : String → Option Access
  | "accessor" => some .viaGetter
  | "direct" => some .direct
  | _ => none

theorem Access.ofWord?_word (a : Access) : ofWord? a.word = some a := by
  cases a <;> rfl

/-- The record that the members of a property state, with its type as decoded. -/
def PropertyRecord.ofRead? (r : Artifact.PropertyRead) : Option PropertyRecord :=
  match Json.find? "name" r.members, Json.find? "collection" r.members, Json.find? "map" r.members,
    Json.find? "access" r.members, Json.find? "getter" r.members,
    Json.find? "parameter" r.members with
  | some (.str name), some (.bool collection), some (.bool map), some (.str word),
    some (.bool getter), some (.bool parameter) =>
      (Access.ofWord? word).map (⟨name, r.type, collection, map, ·, getter, parameter⟩)
  | _, _, _, _, _, _ => none

theorem PropertyRecord.ofRead?_asRead (r : PropertyRecord) : ofRead? r.asRead = some r := by
  change (Access.ofWord? r.access.word).map _ = _
  rw [Access.ofWord?_word]
  rfl

theorem PropertyRecord.mapM_ofRead?_map_asRead (rs : List PropertyRecord) :
    (rs.map asRead).mapM ofRead? = some rs := by
  induction rs with
  | nil => rfl
  | cons r rest ih =>
      rw [List.map_cons, List.mapM_cons, ofRead?_asRead, ih]
      rfl

/-- The record that the members of a class state, with its properties as read. -/
def ClassRecord.ofRead? (r : Artifact.Read) : Option ClassRecord :=
  match Json.find? "name" r.members, Json.find? "namespace" r.members,
    Json.find? "internal" r.members with
  | some (.str name), some (.str namespaceName), some (.bool internal) =>
      (r.properties.mapM PropertyRecord.ofRead?).map (⟨name, namespaceName, internal, ·⟩)
  | _, _, _ => none

theorem ClassRecord.ofRead?_asRead (r : ClassRecord) : ofRead? r.asRead = some r := by
  change ((r.properties.map PropertyRecord.asRead).mapM PropertyRecord.ofRead?).map _ = _
  rw [PropertyRecord.mapM_ofRead?_map_asRead]
  rfl

theorem Host.members_of_mem_known {d : Declarations} {withStandard : Bool} {t : TypeDeclaration}
    (mem : t ∈ (ofDeclarations d withStandard).known) : t.members = [] := by
  obtain ⟨entry, rfl⟩ := exists_standardType_of_mem_known mem
  rfl

/-- The fields of found classes nest no deeper than a document may: listed classes are checked, and
known types have no fields. -/
theorem Discovery.depth_le_of_mem_found {v : Value} {d : Declarations} {withStandard : Bool}
    (passed : Declarations.check v = .pass d) {directKind : String} {registryKind : Option String}
    {found : Found}
    (done : discover (.ofDeclarations d withStandard) directKind registryKind = .ok found)
    {c : AnnotatedClass} (mem : c ∈ found.classes.toList) (unsupported : List Modifier) :
    ∀ p ∈ c.element.properties unsupported, p.source.depth ≤ Check.Nest.limit := by
  rcases mem_found_of_discover done mem with
    ⟨t, listed, _, same⟩ | ⟨_, _, _, _, _, _, _, _, t, known, same⟩
  · rw [same]
    exact Host.depth_le_of_mem_properties withStandard passed listed unsupported
  · rw [same]
    rcases Host.mem_of_typeNamed? known with listed | standard
    · exact Host.depth_le_of_mem_properties withStandard passed listed unsupported
    · rw [Element.properties, show (Element.type t).members = [] from
        Host.members_of_mem_known standard]
      intro p none
      cases none

theorem ClassRecord.read_serialize_of_forall₂ {ctx : Context} {classes : List AnnotatedClass}
    {records : List ClassRecord} (each : List.Forall₂ (Describes ctx) classes records)
    (shallow : ∀ c ∈ classes, ∀ p ∈ c.properties ctx, p.source.depth ≤ Check.Nest.limit) :
    ∀ r ∈ records, Artifact.read r.serialize = .ok r.asRead := by
  induction each with
  | nil => simp
  | cons same _ ih =>
      obtain ⟨first, others⟩ := List.forall_mem_cons.mp shallow
      exact List.forall_mem_cons.mpr
        ⟨AnnotatedClass.read_serialize_of_depth_le same first, ih others⟩

/-- Classes with their texts, with what the standard reader makes of these, and with the records
that it is told. -/
structure ClassRecord.Stated (ctx : Context) (classes : List AnnotatedClass) (texts : List String)
    (reads : List Artifact.Read) (records : List ClassRecord) : Prop where
  serialized : List.Forall₂ (fun c text => (c.serialize ctx).outcome = .ok text) classes texts
  back : List.Forall₂ (fun text read => Artifact.read text = .ok read) texts reads
  told : List.Forall₂ (fun read r => ofRead? read = some r) reads records
  described : List.Forall₂ (Describes ctx) classes records

theorem ClassRecord.stated_of_forall₂ {ctx : Context} {classes : List AnnotatedClass}
    {records : List ClassRecord} (each : List.Forall₂ (Describes ctx) classes records)
    (back : ∀ r ∈ records, Artifact.read r.serialize = .ok r.asRead) :
    Stated ctx classes (records.map serialize) (records.map asRead) records where
  serialized := by
    rw [List.forall₂_map_right_iff]
    exact each.imp fun _ _ => AnnotatedClass.serialize_of_describes
  back := by
    rw [List.forall₂_map_left_iff, List.forall₂_map_right_iff, List.forall₂_same]
    exact back
  told := by
    rw [List.forall₂_map_left_iff, List.forall₂_same]
    exact fun r _ => r.ofRead?_asRead
  described := each

theorem Declarations.exists_check_of_load {files : Files.FileTree} {p : Files.Path}
    {d : Declarations} (done : load files p = .ok d) : ∃ v, check v = .pass d := by
  simp only [load, parse, ofValue, bind, Except.bind] at done
  split at done
  · cases done
  split at done
  · cases done
  split at done
  · cases done
  next v _ =>
    have passed := FirstFailure.mapError_eq_ok_iff.mp done
    cases checked : check (Document.orEmpty v) with
    | pass d' =>
        rw [checked] at passed
        exact ⟨Document.orEmpty v, checked.trans (congrArg Check.pass (Except.ok.inj passed))⟩
    | fail issues =>
        rw [checked] at passed
        cases passed

end ClassAtlas
