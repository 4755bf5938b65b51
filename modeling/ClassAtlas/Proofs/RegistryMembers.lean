import ClassAtlas.Proofs.Discovery

/-!
Which classes a discovery finds. Besides the classes that carry the direct annotation these are the
classes that the first registry annotation of some element lists; what further annotations of the
registry kind list on the same element counts for nothing.
-/
namespace ClassAtlas

namespace Host

variable {h : Host} {name : String} {t : TypeDeclaration}

theorem qualifiedName_of_typeNamed? (found : h.typeNamed? name = some t) :
    t.qualifiedName = name := by
  rcases Option.or_eq_some_iff.mp found with here | ⟨_, here⟩
  all_goals simpa using List.find?_some here

theorem mem_of_typeNamed? (found : h.typeNamed? name = some t) : t ∈ h.classes ∨ t ∈ h.known := by
  rcases Option.or_eq_some_iff.mp found with here | ⟨_, here⟩
  · exact .inl (List.mem_reverse.mp (List.mem_of_find?_eq_some here))
  · exact .inr (List.mem_of_find?_eq_some here)

/-- The known types of a document are those of the table, if any. -/
theorem exists_standardType_of_mem_known {d : Declarations} {withStandard : Bool}
    (mem : t ∈ (ofDeclarations d withStandard).known) : ∃ entry, t = standardType entry := by
  cases withStandard with
  | false => cases mem
  | true =>
      obtain ⟨entry, _, rfl⟩ := List.mem_map.mp mem
      exact ⟨entry, rfl⟩

end Host

theorem Element.annotationOf?_eq_some_iff {e : Element} {kind : String} {a : AnnotationUse} :
    e.annotationOf? kind = some a ↔ a.kind = kind ∧ ∃ before after,
      e.annotations = before ++ a :: after ∧ ∀ b ∈ before, b.kind ≠ kind := by
  rw [annotationOf?, List.find?_eq_some_iff_append]
  simp

namespace Discovery

/-- An annotation lists a name in its value. -/
def ListsName (a : AnnotationUse) (name : String) : Prop :=
  ∃ v names, a.value? "value" = some v ∧ Lists v names ∧ name ∈ names

variable {h : Host} {directKind kind : String} {registryKind : Option String} {e : Element}
  {c : AnnotatedClass} {found : Found}

theorem mem_listedNames?_iff {a : AnnotationUse} {name : String} :
    name ∈ ((a.value? "value").bind listedNames?).getD [] ↔ ListsName a name := by
  constructor
  · intro mem
    cases present : a.value? "value" with
    | none => simp [present] at mem
    | some v =>
        cases lists : listedNames? v with
        | none => simp [present, lists] at mem
        | some names =>
            rw [present, Option.bind_some, lists] at mem
            exact ⟨v, names, present, listedNames?_eq_some_iff.mp lists, mem⟩
  · rintro ⟨v, names, present, lists, mem⟩
    rw [present, Option.bind_some, listedNames?_eq_some_iff.mpr lists]
    exact mem

theorem mem_directListing_iff : c ∈ directListing h kind ↔
    ∃ t ∈ h.classes, (Element.type t).carries kind ∧ c = ⟨.type t, firstFlag (.type t) kind⟩ := by
  simp only [directListing, List.mem_map, List.mem_filter, and_assoc, eq_comm]

theorem mem_listings_iff : c ∈ listings h kind e ↔
    ∃ a, e.annotationOf? kind = some a ∧ ∃ name, ListsName a name ∧
      ∃ t, h.typeNamed? name = some t ∧ c = ⟨.type t, internalFlag a⟩ := by
  simp only [listings, List.mem_flatMap, Option.mem_toList, List.mem_filterMap,
    Option.map_eq_some_iff, mem_listedNames?_iff, eq_comm (a := c)]

theorem mem_registryListing_iff : c ∈ registryListing h (some kind) ↔
    ∃ e ∈ h.elements, c ∈ listings h kind e := by
  rw [registryListing, List.mem_flatMap]
  constructor
  · rintro ⟨e, mem, listed⟩
    exact ⟨e, List.mem_of_mem_filter mem, listed⟩
  · rintro ⟨e, mem, listed⟩
    obtain ⟨a, first, _⟩ := mem_listings_iff.mp listed
    refine ⟨e, List.mem_filter.mpr ⟨mem, ?_⟩, listed⟩
    rw [← Element.isSome_annotationOf?, first]
    rfl

/-- What is listed is a class that carries the direct annotation, or one that a name leads to which
a first registry annotation lists. -/
theorem mem_directListing_append_iff :
    c ∈ directListing h directKind ++ registryListing h registryKind ↔
      (∃ t ∈ h.classes, (Element.type t).carries directKind ∧
        c = ⟨.type t, firstFlag (.type t) directKind⟩) ∨
      ∃ kind, registryKind = some kind ∧ ∃ e ∈ h.elements, ∃ a, e.annotationOf? kind = some a ∧
        ∃ name, ListsName a name ∧ ∃ t, h.typeNamed? name = some t ∧
          c = ⟨.type t, internalFlag a⟩ := by
  rw [List.mem_append, mem_directListing_iff]
  cases registryKind with
  | none => simp [registryListing]
  | some kind =>
      simp only [mem_registryListing_iff, mem_listings_iff, Option.some.injEq, exists_eq_left']

/-- A class is found as one that carries the direct annotation or as one that is listed. -/
theorem mem_found_of_discover (done : discover h directKind registryKind = .ok found)
    (mem : c ∈ found.classes.toList) :
    (∃ t ∈ h.classes, (Element.type t).carries directKind ∧ c.element = .type t) ∨
      ∃ kind, registryKind = some kind ∧ ∃ e ∈ h.elements, ∃ a, e.annotationOf? kind = some a ∧
        ∃ name, ListsName a name ∧ ∃ t, h.typeNamed? name = some t ∧ c.element = .type t := by
  cases found_eq_of_discover done
  rcases mem_directListing_append_iff.mp (ClassSet.mem_of_mem_toList_ofList mem) with
    ⟨t, listed, carried, rfl⟩ | ⟨kind, given, e, visited, a, first, name, lists, t, known, rfl⟩
  · exact .inl ⟨t, listed, carried, rfl⟩
  · exact .inr ⟨kind, given, e, visited, a, first, name, lists, t, known, rfl⟩

/-- A discovery that succeeds knows every name that a first registry annotation lists. -/
theorem exists_typeNamed?_of_discover (done : discover h directKind (some kind) = .ok found)
    (mem : e ∈ h.elements) {a : AnnotationUse} (first : e.annotationOf? kind = some a)
    {name : String} (lists : ListsName a name) : ∃ t, h.typeNamed? name = some t := by
  -- A fault on any element would have broken the discovery off.
  have sound : ∀ x, ¬ ListingFault h kind e x := by
    intro x fault
    obtain ⟨y, earliest⟩ := exists_firstFault_iff.mpr ⟨e, mem, x, fault⟩
    cases done.symm.trans (discover_eq_error_iff.mpr ⟨kind, rfl, earliest⟩)
  have carried : e.carries kind := by
    rw [← Element.isSome_annotationOf?, first]
    rfl
  obtain ⟨part, listed⟩ := (exists_listedOn_iff carried).mpr sound
  obtain ⟨v, names, present, named, place⟩ := lists
  rw [listedOn_of_annotationOf? first, Discovery.listed] at listed
  simp only [present, listedNames?_eq_some_iff.mpr named] at listed
  obtain ⟨_, resolved⟩ := FirstFailure.exists_ok_of_mem listed place
  obtain ⟨t, known, _⟩ := resolve_eq_ok_iff.mp resolved
  exact ⟨t, known⟩

/-- A discovery that succeeds finds every class that the first annotation of the registry kind on
some element lists, and besides these only classes that carry the direct annotation. -/
theorem first_listed_found (h : Host) (directKind kind : String) (found : Found)
    (done : discover h directKind (some kind) = .ok found) :
    (∀ e ∈ h.elements, ∀ before a after, e.annotations = before ++ a :: after → a.kind = kind →
      (∀ b ∈ before, b.kind ≠ kind) → ∀ name, ListsName a name →
        ∃ t, h.typeNamed? name = some t ∧ found.classes.contains t.place) ∧
    (∀ c ∈ found.classes.toList,
      (∃ t ∈ h.classes, (Element.type t).carries directKind ∧ c.element = .type t) ∨
      ∃ e ∈ h.elements, ∃ a, e.annotationOf? kind = some a ∧
        ∃ name, ListsName a name ∧ ∃ t, h.typeNamed? name = some t ∧ c.element = .type t) := by
  constructor
  · intro e mem before a after split kindred first name lists
    have own := Element.annotationOf?_eq_some_iff.mpr ⟨kindred, before, after, split, first⟩
    obtain ⟨t, known⟩ := exists_typeNamed?_of_discover done mem own lists
    refine ⟨t, known, ?_⟩
    have listed : ⟨.type t, internalFlag a⟩ ∈ registryListing h (some kind) :=
      mem_registryListing_iff.mpr
        ⟨e, mem, mem_listings_iff.mpr ⟨a, own, name, lists, t, known, rfl⟩⟩
    cases found_eq_of_discover done
    exact ClassSet.contains_ofList.mpr
      (List.mem_map.mpr ⟨_, List.mem_append_right _ listed, rfl⟩)
  · intro c mem
    refine (mem_found_of_discover done mem).imp_right ?_
    rintro ⟨_, given, listed⟩
    exact Option.some.inj given ▸ listed

/-- An element that carries two registry annotations, each of which lists a class. -/
def registeredTwice : Declarations where
  classes :=
    let plain (name : String) (as : List AnnotationUse) : ClassDecl :=
      ⟨name, .plainClass, none, [], as, [], [], [], []⟩
    [plain "a.A" [], plain "a.B" [],
      plain "a.R" [⟨"Registry", [("value", .str "a.A")]⟩, ⟨"Registry", [("value", .str "a.B")]⟩]]

theorem first_listed_found_registeredTwice :
    let h := Host.ofDeclarations registeredTwice false
    ∃ found, discover h "Tag" (some "Registry") = .ok found ∧
      ∃ t, h.typeNamed? "a.A" = some t ∧ found.classes.contains t.place := by
  intro h
  refine ⟨_, rfl, ?_⟩
  obtain ⟨listed, _⟩ := first_listed_found h "Tag" "Registry" _ rfl
  have registry : h.elements[2]? = some (.type (.ofDecl 2 registeredTwice.classes[2])) := rfl
  refine listed _ (List.mem_of_getElem? registry) [] _ [_] rfl rfl (by simp) "a.A" ?_
  exact ⟨_, _, rfl, .one "a.A", List.mem_singleton_self _⟩

/-- What the second registry annotation of an element lists is not found. -/
theorem second_listed_not_found :
    let h := Host.ofDeclarations registeredTwice false
    ∃ e ∈ h.elements, ∃ a ∈ e.annotations, a.kind = "Registry" ∧ ListsName a "a.B" ∧
      ∃ t, h.typeNamed? "a.B" = some t ∧
        ∃ found, discover h "Tag" (some "Registry") = .ok found ∧
          found.classes.contains t.place = false := by
  intro h
  have registry : h.elements[2]? = some (.type (.ofDecl 2 registeredTwice.classes[2])) := rfl
  refine ⟨_, List.mem_of_getElem? registry, _, List.mem_cons_of_mem _ (List.mem_singleton_self _),
    rfl, ⟨_, _, rfl, .one "a.B", List.mem_singleton_self _⟩, _, rfl, _, rfl, ?_⟩
  decide

end Discovery
end ClassAtlas
