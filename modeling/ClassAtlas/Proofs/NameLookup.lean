import ClassAtlas.Proofs.Lists
import ClassAtlas.Proofs.RegistryMembers

/-!
Classes found by name. A name leads to the last listed class that bears it, so each class of a
document is the one its own name leads to exactly when no name is given twice. The classes that a
discovery finds on such a document have names of their own.
-/
namespace ClassAtlas

namespace Host

variable {h : Host} {name : String} {t : TypeDeclaration}

theorem named_reverse_of_last {before after : List TypeDeclaration} (same : t.qualifiedName = name)
    (apart : ∀ u ∈ after, u.qualifiedName ≠ name) :
    named name (before ++ t :: after).reverse = some t := by
  rw [named, List.find?_eq_some_iff_append]
  refine ⟨by simpa using same, after.reverse, before.reverse, by simp, ?_⟩
  intro u mem
  simpa using apart u (List.mem_reverse.mp mem)

/-- The name of a listed class leads to the last class listed under it. -/
theorem exists_last_of_mem (mem : t ∈ h.classes) : ∃ before u after,
    h.classes = before ++ u :: after ∧ u.qualifiedName = t.qualifiedName ∧
      (∀ v ∈ after, v.qualifiedName ≠ t.qualifiedName) ∧
      h.typeNamed? t.qualifiedName = some u := by
  obtain ⟨before, u, after, split, same, apart⟩ :=
    exists_last_of_key (fun t : TypeDeclaration => t.qualifiedName) mem
  refine ⟨before, u, after, split, same, apart, Option.or_eq_some_iff.mpr (.inl ?_)⟩
  rw [split]
  exact named_reverse_of_last same apart

theorem typeNamed?_of_mem_of_nodup (distinct : (h.classes.map fun t => t.qualifiedName).Nodup)
    (mem : t ∈ h.classes) : h.typeNamed? t.qualifiedName = some t := by
  obtain ⟨before, u, after, split, same, _, found⟩ := exists_last_of_mem mem
  have listed : u ∈ h.classes := by simp [split]
  rw [found, List.inj_on_of_nodup_map distinct listed mem same]

theorem typeNamed?_eq_known (unlisted : ∀ t ∈ h.classes, t.qualifiedName ≠ name) :
    h.typeNamed? name = named name h.known := by
  have none : named name h.classes.reverse = none := by
    rw [named, List.find?_eq_none]
    intro t mem
    simpa using unlisted t (List.mem_reverse.mp mem)
  rw [typeNamed?, none, Option.none_or]

theorem nodup_names_of_typeNamed? (places : (h.classes.map fun t => t.place).Nodup)
    (own : ∀ t ∈ h.classes, h.typeNamed? t.qualifiedName = some t) :
    (h.classes.map fun t => t.qualifiedName).Nodup := by
  refine places.of_map.map_on ?_
  intro t mem u mem' same
  have found := own t mem
  rw [same, own u mem'] at found
  exact (Option.some.inj found).symm

theorem names_ofDeclarations (d : Declarations) (withStandard : Bool) :
    (ofDeclarations d withStandard).classes.map (fun t => t.qualifiedName) =
      d.classes.map (·.name) := by
  apply List.ext_getElem
  · simp [ofDeclarations]
  · intro i _ _
    simp [ofDeclarations, TypeDeclaration.ofDecl]

end Host

namespace Discovery

variable {h : Host} {directKind : String} {registryKind : Option String} {found : Found}

/-- Where every class is what its name leads to, so is every class that is listed. -/
theorem typeNamed?_of_listed (own : ∀ t ∈ h.classes, h.typeNamed? t.qualifiedName = some t)
    {c : AnnotatedClass} (listed : c ∈ directListing h directKind ++ registryListing h registryKind) :
    ∃ t, c.element = .type t ∧ h.typeNamed? c.qualifiedName = some t := by
  rcases mem_directListing_append_iff.mp listed with
    ⟨t, mem, _, rfl⟩ | ⟨_, _, _, _, _, _, name, _, t, known, rfl⟩
  · exact ⟨t, rfl, own t mem⟩
  · have leads : (Element.type t).qualifiedName = name := Host.qualifiedName_of_typeNamed? known
    refine ⟨t, rfl, ?_⟩
    rw [AnnotatedClass.qualifiedName, leads]
    exact known

theorem typeNamed?_of_mem_found (own : ∀ t ∈ h.classes, h.typeNamed? t.qualifiedName = some t)
    (done : discover h directKind registryKind = .ok found) {c : AnnotatedClass}
    (mem : c ∈ found.classes.toList) :
    ∃ t, c.element = .type t ∧ h.typeNamed? c.qualifiedName = some t := by
  cases found_eq_of_discover done
  exact typeNamed?_of_listed own (ClassSet.mem_of_mem_toList_ofList mem)

theorem nodup_names_of_discover (own : ∀ t ∈ h.classes, h.typeNamed? t.qualifiedName = some t)
    (done : discover h directKind registryKind = .ok found) :
    (found.classes.toList.map AnnotatedClass.qualifiedName).Nodup := by
  have places := found.classes.distinct
  refine places.of_map.map_on ?_
  intro c mem c' mem' same
  obtain ⟨t, element, known⟩ := typeNamed?_of_mem_found own done mem
  obtain ⟨t', element', known'⟩ := typeNamed?_of_mem_found own done mem'
  rw [same, known'] at known
  have place : c.place = c'.place := by
    rw [AnnotatedClass.place, AnnotatedClass.place, element, element', Option.some.inj known]
  exact List.inj_on_of_nodup_map places mem mem' place

/-- The name of a class leads to the last class listed under it. It leads to every class itself
exactly when the names of the document are distinct; then no discovery finds two classes of one
name. -/
theorem lookup_by_own_name (d : Declarations) (withStandard : Bool) :
    let h := Host.ofDeclarations d withStandard
    (∀ t ∈ h.classes, ∃ before u after, h.classes = before ++ u :: after ∧
      u.qualifiedName = t.qualifiedName ∧ (∀ v ∈ after, v.qualifiedName ≠ t.qualifiedName) ∧
      h.typeNamed? t.qualifiedName = some u) ∧
    ((∀ t ∈ h.classes, h.typeNamed? t.qualifiedName = some t) ↔ (d.classes.map (·.name)).Nodup) ∧
    ((d.classes.map (·.name)).Nodup → ∀ directKind registryKind found,
      discover h directKind registryKind = .ok found →
        (found.classes.toList.map AnnotatedClass.qualifiedName).Nodup) := by
  intro h
  have own : (d.classes.map (·.name)).Nodup →
      ∀ t ∈ h.classes, h.typeNamed? t.qualifiedName = some t := by
    intro distinct t mem
    rw [← Host.names_ofDeclarations d withStandard] at distinct
    exact Host.typeNamed?_of_mem_of_nodup distinct mem
  refine ⟨fun t mem => Host.exists_last_of_mem mem, ⟨?_, own⟩, ?_⟩
  · intro itself
    rw [← Host.names_ofDeclarations d withStandard]
    exact Host.nodup_names_of_typeNamed? (Host.nodup_places d withStandard) itself
  · intro distinct directKind registryKind found done
    exact nodup_names_of_discover (own distinct) done

theorem lookup_by_own_name_taggedAndListed :
    let h := Host.ofDeclarations Generator.taggedAndListed true
    (∀ t ∈ h.classes, h.typeNamed? t.qualifiedName = some t) ∧
    ∃ found, discover h "Tag" (some "Registry") = .ok found ∧
      found.classes.toList.length = 2 ∧
      (found.classes.toList.map AnnotatedClass.qualifiedName).Nodup := by
  intro h
  have distinct : (Generator.taggedAndListed.classes.map (·.name)).Nodup := by decide
  have done : discover h "Tag" (some "Registry") =
      .ok ⟨directListing h "Tag", registryListing h (some "Registry")⟩ := rfl
  obtain ⟨_, own, named⟩ := lookup_by_own_name Generator.taggedAndListed true
  exact ⟨own.mpr distinct, _, done, by decide, named distinct "Tag" (some "Registry") _ done⟩

/-- A name given twice: the first class of the name is tagged, the second registers the name. -/
def namedTwice : Declarations where
  classes :=
    let plain (a : AnnotationUse) : ClassDecl :=
      ⟨"a.A", .plainClass, none, [], [a], [], [], [], []⟩
    [plain ⟨"Tag", []⟩, plain ⟨"Registry", [("value", .str "a.A")]⟩]

/-- The name of the first class leads to the second, and a discovery finds both. -/
theorem shadowed_class_found_twice :
    let h := Host.ofDeclarations namedTwice false
    (¬ ∀ t ∈ h.classes, (h.typeNamed? t.qualifiedName).map (·.place) = some t.place) ∧
    ∃ found, discover h "Tag" (some "Registry") = .ok found ∧
      found.classes.toList.map AnnotatedClass.qualifiedName = ["a.A", "a.A"] ∧
      found.classes.toList.map AnnotatedClass.place = [.listed 0, .listed 1] := by
  intro h
  exact ⟨by decide, _, rfl, by decide, by decide⟩

end Discovery
end ClassAtlas
