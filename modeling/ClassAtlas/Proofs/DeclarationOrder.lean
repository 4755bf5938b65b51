import ClassAtlas.Proofs.HostAgreement
import ClassAtlas.Proofs.NameLookup
import Mathlib.Data.List.Perm.Basic

/-!
The order of the classes in a document. Documents that list the same classes, each name once, in
different orders give hosts in which the same elements stand at other places and every name leads
to the same declaration. Artifacts and the outcome of a discovery are those of any other order; a
discovery finds the same classes, and those it finds directly with the same flags.
-/
namespace ClassAtlas

namespace Host

/-- The same classes in another order, apart from places, and the same known types. No two of the
classes have one name. -/
structure Reordered (h h' : Host) : Prop where
  classes : (h.classes.map TypeDeclaration.unplaced).Perm (h'.classes.map TypeDeclaration.unplaced)
  known : h.known = h'.known
  distinct : (h.classes.map fun t => t.qualifiedName).Nodup

theorem map_qualifiedName_unplaced (ts : List TypeDeclaration) :
    (ts.map TypeDeclaration.unplaced).map (fun t => t.qualifiedName) =
      ts.map fun t => t.qualifiedName := by
  rw [List.map_map]
  rfl

namespace Reordered

variable {h h' : Host}

theorem symm (order : h.Reordered h') : h'.Reordered h where
  classes := order.classes.symm
  known := order.known.symm
  distinct := by
    have names := order.classes.map fun t => t.qualifiedName
    rw [map_qualifiedName_unplaced, map_qualifiedName_unplaced] at names
    exact names.nodup_iff.mp order.distinct

theorem exists_class (order : h.Reordered h') {t : TypeDeclaration} (mem : t ∈ h.classes) :
    ∃ t' ∈ h'.classes, t'.unplaced = t.unplaced :=
  List.mem_map.mp (order.classes.subset (List.mem_map_of_mem mem))

theorem exists_element (order : h.Reordered h') {e : Element} (mem : e ∈ h.elements) :
    ∃ e' ∈ h'.elements, e'.unplaced = e.unplaced := by
  have unplaced : ∀ ts : List TypeDeclaration, (ts.flatMap Element.walk).map Element.unplaced =
      (ts.map TypeDeclaration.unplaced).flatMap Element.walk := by
    intro ts
    simp only [List.map_flatMap, List.flatMap_map, Element.walk_unplaced]
  have elements := order.classes.flatMap_right Element.walk
  rw [← unplaced, ← unplaced] at elements
  exact List.mem_map.mp (elements.subset (List.mem_map_of_mem mem))

/-- A name leads to the one class that bears it, or past the classes of both hosts. -/
theorem agree (order : h.Reordered h') : h.Agree h' := by
  intro name
  by_cases listed : ∃ t ∈ h.classes, t.qualifiedName = name
  · obtain ⟨t, mem, rfl⟩ := listed
    obtain ⟨t', mem', same⟩ := order.exists_class mem
    have alike : t'.qualifiedName = t.qualifiedName :=
      congrArg (fun t => t.qualifiedName) same
    have leads := typeNamed?_of_mem_of_nodup order.symm.distinct mem'
    rw [alike] at leads
    rw [typeNamed?_of_mem_of_nodup order.distinct mem, leads, Option.map_some, Option.map_some,
      same]
  · have unlisted : ∀ t ∈ h.classes, t.qualifiedName ≠ name :=
      fun t mem named => listed ⟨t, mem, named⟩
    have unlisted' : ∀ t ∈ h'.classes, t.qualifiedName ≠ name := by
      intro t mem
      obtain ⟨u, mem', same⟩ := order.symm.exists_class mem
      have alike : u.qualifiedName = t.qualifiedName := congrArg (fun t => t.qualifiedName) same
      exact alike ▸ unlisted u mem'
    rw [typeNamed?_eq_known unlisted, typeNamed?_eq_known unlisted', order.known]

end Reordered

section Documents

variable {d d' : Declarations} {withStandard : Bool}

theorem map_unplaced_ofDeclarations (d : Declarations) (withStandard : Bool) :
    (ofDeclarations d withStandard).classes.map TypeDeclaration.unplaced =
      d.classes.map fun c => (TypeDeclaration.ofDecl 0 c).unplaced := by
  apply List.ext_getElem
  · simp [ofDeclarations]
  · intro i _ _
    simp only [ofDeclarations, List.getElem_map, List.getElem_mapIdx]
    exact TypeDeclaration.unplaced_ofDecl i 0 _

theorem reordered_ofDeclarations (perm : d.classes.Perm d'.classes)
    (distinct : (d.classes.map (·.name)).Nodup) :
    (ofDeclarations d withStandard).Reordered (ofDeclarations d' withStandard) where
  classes := by
    rw [map_unplaced_ofDeclarations, map_unplaced_ofDeclarations]
    exact perm.map _
  known := rfl
  distinct := by rwa [names_ofDeclarations]

/-- In a document a place belongs to one of the types that names lead to. -/
theorem eq_of_place_eq {name name' : String} {t t' : TypeDeclaration}
    (leads : (ofDeclarations d withStandard).typeNamed? name = some t)
    (leads' : (ofDeclarations d withStandard).typeNamed? name' = some t')
    (place : t.place = t'.place) : t = t' := by
  have listed : ∀ u ∈ (ofDeclarations d withStandard).classes, ∃ i, u.place = .listed i := by
    intro u mem
    obtain ⟨i, _, rfl⟩ := List.mem_mapIdx.mp mem
    exact ⟨i, rfl⟩
  have known : ∀ u ∈ (ofDeclarations d withStandard).known, u.place = .known u.qualifiedName := by
    intro u mem
    obtain ⟨entry, rfl⟩ := exists_standardType_of_mem_known mem
    rfl
  rcases mem_of_typeNamed? leads with mem | mem <;> rcases mem_of_typeNamed? leads' with mem' | mem'
  · exact List.inj_on_of_nodup_map (nodup_places d withStandard) mem mem' place
  · obtain ⟨i, own⟩ := listed t mem
    cases own.symm.trans (place.trans (known t' mem'))
  · obtain ⟨i, own⟩ := listed t' mem'
    cases own.symm.trans (place.symm.trans (known t mem))
  · have named : t.qualifiedName = t'.qualifiedName :=
      Place.known.inj ((known t mem).symm.trans (place.trans (known t' mem')))
    rw [qualifiedName_of_typeNamed? leads, qualifiedName_of_typeNamed? leads'] at named
    rw [named, leads'] at leads
    exact (Option.some.inj leads).symm

/-- The known types bear no annotations. -/
theorem mem_classes_of_carries {name kind : String} {t : TypeDeclaration}
    (leads : (ofDeclarations d withStandard).typeNamed? name = some t)
    (carried : (Element.type t).carries kind) : t ∈ (ofDeclarations d withStandard).classes := by
  rcases mem_of_typeNamed? leads with mem | mem
  · exact mem
  · obtain ⟨entry, rfl⟩ := exists_standardType_of_mem_known mem
    cases carried

end Documents
end Host

namespace Discovery

open Host

variable {h h' : Host} {directKind kind : String} {registryKind : Option String}
  {e e' : Element} {c : AnnotatedClass}

theorem firstFlag_eq_of_unplaced (same : e'.unplaced = e.unplaced) (kind : String) :
    firstFlag e' kind = firstFlag e kind := by
  rw [firstFlag, Element.annotationOf?_eq_of_unplaced same, firstFlag]

theorem ListingFault.transfer (agree : h.Agree h') (same : e'.unplaced = e.unplaced)
    {x : DiscoveryError} (fault : ListingFault h kind e x) : ListingFault h' kind e' x := by
  have annotated := Element.annotationOf?_eq_of_unplaced same kind
  have named := Element.qualifiedName_eq_of_unplaced same
  cases fault with
  | noValue first absent =>
      rw [← named]
      exact .noValue (annotated.trans first) absent
  | malformed first present unlisted =>
      rw [← named]
      exact .malformed (annotated.trans first) present unlisted
  | unknown first present lists known missing =>
      rw [← named]
      refine .unknown (annotated.trans first) present lists ?_ (agree.typeNamed?_eq_none missing)
      intro n mem
      obtain ⟨t, leads⟩ := known n mem
      obtain ⟨t', leads', _⟩ := agree.exists_of_typeNamed? leads
      exact ⟨t', leads'⟩

theorem exists_error_of_reordered (order : h.Reordered h')
    (failed : ∃ x, discover h directKind registryKind = .error x) :
    ∃ x, discover h' directKind registryKind = .error x := by
  obtain ⟨kind, given, e, mem, x, fault⟩ := exists_discover_eq_error_iff.mp failed
  obtain ⟨e', mem', same⟩ := order.exists_element mem
  exact exists_discover_eq_error_iff.mpr
    ⟨kind, given, e', mem', x, fault.transfer order.agree same⟩

/-- What is listed in one order is listed in the other, with the same flag. -/
theorem exists_listed_of_reordered (order : h.Reordered h')
    (listed : c ∈ directListing h directKind ++ registryListing h registryKind) :
    ∃ c' ∈ directListing h' directKind ++ registryListing h' registryKind,
      c'.unplaced = c.unplaced := by
  simp only [mem_directListing_append_iff] at listed ⊢
  rcases listed with
    ⟨t, mem, carried, rfl⟩ | ⟨kind, given, e, mem, a, first, name, lists, t, leads, rfl⟩
  · obtain ⟨t', mem', same⟩ := order.exists_class mem
    have alike : (Element.type t').unplaced = (Element.type t).unplaced :=
      congrArg Element.type same
    refine ⟨_, .inl ⟨t', mem', ?_, rfl⟩, ?_⟩
    · rwa [Element.carries_eq_of_unplaced alike]
    · simp only [AnnotatedClass.unplaced, alike, firstFlag_eq_of_unplaced alike]
  · obtain ⟨e', mem', same⟩ := order.exists_element mem
    obtain ⟨t', leads', alike⟩ := order.agree.exists_of_typeNamed? leads
    have first' : e'.annotationOf? kind = some a :=
      (Element.annotationOf?_eq_of_unplaced same kind).trans first
    refine ⟨_, .inr ⟨kind, given, e', mem', a, first', name, lists, t', leads', rfl⟩, ?_⟩
    simp only [AnnotatedClass.unplaced, Element.unplaced, alike]

section Documents

variable {d : Declarations} {withStandard : Bool} {found found' : Found}

/-- A class that is found in one order is found in the other. The flag may differ where the class
is listed more than once. -/
theorem exists_found_of_reordered (order : h.Reordered (.ofDeclarations d withStandard))
    (done : discover h directKind registryKind = .ok found)
    (done' : discover (.ofDeclarations d withStandard) directKind registryKind = .ok found')
    (mem : c ∈ found.classes.toList) :
    ∃ c' ∈ found'.classes.toList, c'.element.unplaced = c.element.unplaced := by
  have own : ∀ t ∈ (Host.ofDeclarations d withStandard).classes,
      (Host.ofDeclarations d withStandard).typeNamed? t.qualifiedName = some t :=
    fun t mem => typeNamed?_of_mem_of_nodup order.symm.distinct mem
  cases found_eq_of_discover done
  cases found_eq_of_discover done'
  obtain ⟨l, listed, same⟩ :=
    exists_listed_of_reordered order (ClassSet.mem_of_mem_toList_ofList mem)
  -- The class listed there may be held as an earlier one of its place.
  have held := (ClassSet.contains_iff _ _).mp
    (ClassSet.contains_ofList.mpr (List.mem_map_of_mem listed))
  obtain ⟨c', mem', place⟩ := List.mem_map.mp held
  obtain ⟨t, element, leads⟩ := typeNamed?_of_listed own listed
  obtain ⟨t', element', leads'⟩ :=
    typeNamed?_of_listed own (ClassSet.mem_of_mem_toList_ofList mem')
  rw [AnnotatedClass.place, AnnotatedClass.place, element, element'] at place
  refine ⟨c', mem', ?_⟩
  rw [element', eq_of_place_eq leads' leads place, ← element]
  exact congrArg AnnotatedClass.element same

/-- A class that carries the direct annotation is found with the flag of that annotation, however
it is listed besides. -/
theorem internal_of_carries
    (distinct : ((Host.ofDeclarations d withStandard).classes.map fun t => t.qualifiedName).Nodup)
    (done : discover (.ofDeclarations d withStandard) directKind registryKind = .ok found)
    (mem : c ∈ found.classes.toList) (carried : c.element.carries directKind) :
    c.internal = firstFlag c.element directKind := by
  obtain ⟨t, element, leads⟩ := typeNamed?_of_mem_found
    (fun _ mem => typeNamed?_of_mem_of_nodup distinct mem) done mem
  cases found_eq_of_discover done
  rw [element] at carried ⊢
  have direct : ⟨.type t, firstFlag (.type t) directKind⟩ ∈
      directListing (.ofDeclarations d withStandard) directKind :=
    mem_directListing_iff.mpr ⟨t, mem_classes_of_carries leads carried, carried, rfl⟩
  have first : ⟨.type t, firstFlag (.type t) directKind⟩ ∈ (Found.classes
      ⟨directListing (.ofDeclarations d withStandard) directKind,
        registryListing (.ofDeclarations d withStandard) registryKind⟩).toList := by
    rw [Found.classes,
      ClassSet.toList_ofList_append _ (directListing_places_nodup d withStandard directKind)]
    exact List.mem_append_left _ direct
  have same := List.inj_on_of_nodup_map (ClassSet.distinct _) mem first
    (by rw [AnnotatedClass.place, element, AnnotatedClass.place])
  rw [same]

end Documents

section FoundInBoth

variable {d d' : Declarations} {withStandard : Bool} {found found' : Found}

theorem nodup_names_of_reordered (order : (Host.ofDeclarations d withStandard).Reordered h')
    (done : discover (.ofDeclarations d withStandard) directKind registryKind = .ok found) :
    (found.classes.toList.map AnnotatedClass.qualifiedName).Nodup :=
  nodup_names_of_discover (fun _ mem => typeNamed?_of_mem_of_nodup order.distinct mem) done

variable
  (order : (Host.ofDeclarations d withStandard).Reordered (.ofDeclarations d' withStandard))
  (done : discover (.ofDeclarations d withStandard) directKind registryKind = .ok found)
  (done' : discover (.ofDeclarations d' withStandard) directKind registryKind = .ok found')
include order done done'

theorem perm_names_of_reordered : (found.classes.toList.map AnnotatedClass.qualifiedName).Perm
    (found'.classes.toList.map AnnotatedClass.qualifiedName) := by
  refine (List.perm_ext_iff_of_nodup (nodup_names_of_reordered order done)
    (nodup_names_of_reordered order.symm done')).mpr fun name => ?_
  simp only [List.mem_map]
  constructor
  · rintro ⟨c, mem, rfl⟩
    obtain ⟨c', mem', same⟩ := exists_found_of_reordered order done done' mem
    exact ⟨c', mem', Element.qualifiedName_eq_of_unplaced same⟩
  · rintro ⟨c, mem, rfl⟩
    obtain ⟨c', mem', same⟩ := exists_found_of_reordered order.symm done' done mem
    exact ⟨c', mem', Element.qualifiedName_eq_of_unplaced same⟩

theorem unplaced_eq_of_qualifiedName_eq {c c' : AnnotatedClass} (mem : c ∈ found.classes.toList)
    (mem' : c' ∈ found'.classes.toList) (named : c'.qualifiedName = c.qualifiedName) :
    c'.element.unplaced = c.element.unplaced := by
  obtain ⟨c'', mem'', same⟩ := exists_found_of_reordered order done done' mem
  rwa [List.inj_on_of_nodup_map (nodup_names_of_reordered order.symm done') mem' mem''
    (named.trans (Element.qualifiedName_eq_of_unplaced same).symm)]

theorem internal_eq_of_carries {c c' : AnnotatedClass} (mem : c ∈ found.classes.toList)
    (mem' : c' ∈ found'.classes.toList) (same : c'.element.unplaced = c.element.unplaced)
    (carried : c.element.carries directKind) : c'.internal = c.internal := by
  have carried' : c'.element.carries directKind := by rwa [Element.carries_eq_of_unplaced same]
  rw [internal_of_carries order.distinct done mem carried,
    internal_of_carries order.symm.distinct done' mem' carried', firstFlag_eq_of_unplaced same]

end FoundInBoth
end Discovery

namespace Generator

open Discovery Host

theorem agree_context_ofConfig {h h' : Host} (agree : h.Agree h') (config : Config)
    (own : List Modifier) :
    (ofConfig h' config own).context.Agree (ofConfig h config own).context :=
  ⟨⟨agree.symm, rfl, rfl⟩, rfl⟩

/-- Whether a document lists its classes, each of a name of its own, in one order or another: every
class has the same artifact or the same failure, a discovery fails in both orders or in neither,
and it finds the same classes, those that carry the direct annotation with the same flag. -/
theorem declaration_order_immaterial {d d' : Declarations} (perm : d.classes.Perm d'.classes)
    (distinct : (d.classes.map (·.name)).Nodup) (withStandard : Bool) (config : Config)
    (own : List Modifier) :
    let g := ofConfig (.ofDeclarations d withStandard) config own
    let g' := ofConfig (.ofDeclarations d' withStandard) config own
    (∀ t ∈ g.host.classes, ∃ t' ∈ g'.host.classes, t'.qualifiedName = t.qualifiedName ∧
      ∀ internal, AnnotatedClass.serialize g'.context ⟨.type t', internal⟩ =
        AnnotatedClass.serialize g.context ⟨.type t, internal⟩) ∧
    ∀ directKind registryKind,
      ((∃ x, Discovery.discover g.host directKind registryKind = .error x) ↔
        ∃ x, Discovery.discover g'.host directKind registryKind = .error x) ∧
      ∀ found found', Discovery.discover g.host directKind registryKind = .ok found →
        Discovery.discover g'.host directKind registryKind = .ok found' →
        (found.classes.toList.map AnnotatedClass.qualifiedName).Perm
          (found'.classes.toList.map AnnotatedClass.qualifiedName) ∧
        ∀ c ∈ found.classes.toList, ∀ c' ∈ found'.classes.toList,
          c'.qualifiedName = c.qualifiedName →
            (∀ internal, AnnotatedClass.serialize g'.context ⟨c'.element, internal⟩ =
              AnnotatedClass.serialize g.context ⟨c.element, internal⟩) ∧
            (c.element.carries directKind → c'.internal = c.internal) := by
  intro g g'
  have order : g.host.Reordered g'.host := reordered_ofDeclarations perm distinct
  have contexts : g'.context.Agree g.context := agree_context_ofConfig order.agree config own
  refine ⟨?_, fun directKind registryKind => ⟨?_, ?_⟩⟩
  · intro t mem
    obtain ⟨t', mem', same⟩ := order.exists_class mem
    refine ⟨t', mem', congrArg (fun t => t.qualifiedName) same, fun internal => ?_⟩
    refine contexts.serialize_eq ?_
    simp only [AnnotatedClass.unplaced, Element.unplaced, same]
  · exact ⟨exists_error_of_reordered order, exists_error_of_reordered order.symm⟩
  · intro found found' done done'
    refine ⟨perm_names_of_reordered order done done', fun c mem c' mem' named => ?_⟩
    have same := unplaced_eq_of_qualifiedName_eq order done done' mem mem' named
    refine ⟨fun internal => contexts.serialize_eq ?_,
      internal_eq_of_carries order done done' mem mem' same⟩
    simp only [AnnotatedClass.unplaced, same]

/-- A registry among the classes it lists, which are tagged, listed only, or no classes of the
document. One class has a property whose type is a collection by way of another. -/
def listedAround : Declarations where
  classes :=
    let plain (name : String) (as : List AnnotationUse) : ClassDecl :=
      ⟨name, .plainClass, none, [], as, [], [], [], []⟩
    [plain "a.C" [⟨"Tag", []⟩],
      plain "a.R" [⟨"Registry", [("value", .seq [.str "a.A", .str "a.B", .str "java.util.Date"])]⟩],
      { plain "a.A" [⟨"Tag", [("internal", .bool true)]⟩] with
        fields := [⟨"parts", .bare "a.B", [], []⟩] },
      { plain "a.B" [] with supertypes := [.bare "java.util.List"] }]

theorem declaration_order_immaterial_listedAround :
    let h := Host.ofDeclarations listedAround true
    let h' := Host.ofDeclarations ⟨listedAround.classes.reverse⟩ true
    ∃ found found', Discovery.discover h "Tag" (some "Registry") = .ok found ∧
      Discovery.discover h' "Tag" (some "Registry") = .ok found' ∧
      found.classes.toList.map (fun c => (c.qualifiedName, c.internal)) =
        [("a.C", false), ("a.A", true), ("a.B", false), ("java.util.Date", false)] ∧
      found'.classes.toList.map (fun c => (c.qualifiedName, c.internal)) =
        [("a.A", true), ("a.C", false), ("a.B", false), ("java.util.Date", false)] ∧
      (found.classes.toList.map AnnotatedClass.qualifiedName).Perm
        (found'.classes.toList.map AnnotatedClass.qualifiedName) := by
  intro h h'
  have perm : listedAround.classes.Perm (Declarations.mk listedAround.classes.reverse).classes :=
    (List.reverse_perm _).symm
  have distinct : (listedAround.classes.map (·.name)).Nodup := by decide
  obtain ⟨_, discovered⟩ := declaration_order_immaterial perm distinct true .standard []
  refine ⟨_, _, rfl, rfl, by decide, by decide, ?_⟩
  exact ((discovered "Tag" (some "Registry")).2 _ _ rfl rfl).1

end Generator
end ClassAtlas
