import ClassAtlas.Discovery
import ClassAtlas.Proofs.FirstFailure
import Mathlib.Data.List.Nodup

/-!
What the annotations of a round list. A class with the direct annotation is listed with the flag of
its first annotation of that kind; this cannot fail. An element with the registry annotation lists
the classes its first one names, and shows a fault where it names none or one that is unknown.
-/
namespace ClassAtlas

theorem Value.texts?_eq_some_iff {items : List Value} {texts : List String} :
    Value.texts? items = some texts ↔ items = texts.map .str := by
  induction items generalizing texts with
  | nil => cases texts <;> simp [texts?]
  | cons v rest ih =>
      cases v <;> cases texts <;> simp [texts?, ih, and_comm]

namespace Element

theorem isSome_annotationOf? (e : Element) (kind : String) :
    (e.annotationOf? kind).isSome = e.carries kind :=
  List.isSome_find?

theorem exists_annotationOf?_of_carries {e : Element} {kind : String} (carried : e.carries kind) :
    ∃ a, e.annotationOf? kind = some a :=
  Option.isSome_iff_exists.mp ((isSome_annotationOf? e kind).trans carried)

/-- A type is the only type among the elements of its walk. -/
theorem filterMap_type?_filter_walk (t : TypeDeclaration) (keep : Element → Bool) :
    ((walk t).filter keep).filterMap type? = [t].filter fun t => keep (.type t) := by
  have below : ∀ es : List Element, (∀ e ∈ es, e.type? = none) →
      (es.filter keep).filterMap type? = [] := by
    intro es none
    rw [List.filterMap_eq_nil_iff]
    exact fun e mem => none e (List.mem_of_mem_filter mem)
  have members : ∀ e ∈ t.members.flatMap fun m => member m :: m.parameters.map parameter,
      e.type? = none := by
    intro e mem
    obtain ⟨m, _, mem⟩ := List.mem_flatMap.mp mem
    rcases List.mem_cons.mp mem with rfl | mem
    · rfl
    · obtain ⟨p, _, rfl⟩ := List.mem_map.mp mem
      rfl
  rw [walk]
  cases kept : keep (.type t) with
  | true => simp [kept, below _ members, type?]
  | false => simp [kept, below _ members]

end Element

namespace Host

theorem filterMap_type?_annotatedWith (h : Host) (kind : String) :
    (h.annotatedWith kind).filterMap Element.type? =
      h.classes.filter fun t => (Element.type t).carries kind := by
  rw [annotatedWith, elements]
  induction h.classes with
  | nil => rfl
  | cons t rest ih =>
      rw [List.flatMap_cons, List.filter_append, List.filterMap_append, ih,
        Element.filterMap_type?_filter_walk, ← List.filter_append]
      rfl

theorem carries_of_mem_annotatedWith {h : Host} {kind : String} {e : Element}
    (mem : e ∈ h.annotatedWith kind) : e.carries kind :=
  (List.mem_filter.mp mem).2

/-- The listed classes of a document have places of their own. -/
theorem nodup_places (d : Declarations) (withStandard : Bool) :
    ((ofDeclarations d withStandard).classes.map fun t => t.place).Nodup := by
  have places : (ofDeclarations d withStandard).classes.map (fun t => t.place) =
      (List.range d.classes.length).map Place.listed := by
    apply List.ext_getElem
    · simp [ofDeclarations]
    · intro i _ _
      simp [ofDeclarations, TypeDeclaration.ofDecl]
  rw [places]
  exact List.Nodup.map (fun _ _ same => Place.listed.inj same) List.nodup_range

end Host

namespace Discovery

/-- The flag that the first annotation of a kind gives. -/
def firstFlag (e : Element) (kind : String) : Bool := (e.annotationOf? kind).any internalFlag

/-- The classes that carry the direct annotation, in the order of the document. -/
def directListing (h : Host) (kind : String) : List AnnotatedClass :=
  (h.classes.filter fun t => (Element.type t).carries kind).map fun t =>
    ⟨.type t, firstFlag (.type t) kind⟩

theorem directClass_eq {kind : String} {t : TypeDeclaration}
    (carried : (Element.type t).carries kind) :
    directClass kind t = .ok ⟨.type t, firstFlag (.type t) kind⟩ := by
  obtain ⟨a, first⟩ := Element.exists_annotationOf?_of_carries carried
  simp only [directClass, isInternal, required, firstFlag, first]
  rfl

/-- Nothing that is asked of a class found directly can fail. -/
theorem directClasses_eq (h : Host) (kind : String) :
    directClasses h kind = .ok (directListing h kind) := by
  rw [directClasses, Host.filterMap_type?_annotatedWith, FirstFailure.mapM_eq_ok_iff,
    directListing, List.forall₂_map_right_iff, List.forall₂_same]
  intro t mem
  exact directClass_eq (List.mem_filter.mp mem).2

/-- A value lists names as a list of texts, or one name as a text. -/
inductive Lists : Value → List String → Prop where
  | one (name : String) : Lists (.str name) [name]
  | all (names : List String) : Lists (.seq (names.map .str)) names

theorem listedNames?_eq_some_iff {v : Value} {names : List String} :
    listedNames? v = some names ↔ Lists v names := by
  constructor
  · intro h
    cases v with
    | str name =>
        cases h
        exact .one name
    | seq items =>
        cases Value.texts?_eq_some_iff.mp h
        exact .all names
    | _ => cases h
  · intro h
    cases h with
    | one name => rfl
    | all => exact Value.texts?_eq_some_iff.mpr rfl

/-- Why the first annotation of a kind on an element lists no known classes. Of the names it lists,
the first unknown one counts. -/
inductive ListingFault (h : Host) (kind : String) (e : Element) : DiscoveryError → Prop where
  | noValue {a : AnnotationUse} (first : e.annotationOf? kind = some a)
      (absent : a.value? "value" = none) :
      ListingFault h kind e (.noValue a.simpleName e.qualifiedName)
  | malformed {a : AnnotationUse} {v : Value} (first : e.annotationOf? kind = some a)
      (present : a.value? "value" = some v) (unlisted : ∀ names, ¬ Lists v names) :
      ListingFault h kind e (.malformedValue a.simpleName e.qualifiedName)
  | unknown {a : AnnotationUse} {v : Value} {before after : List String} {name : String}
      (first : e.annotationOf? kind = some a) (present : a.value? "value" = some v)
      (lists : Lists v (before ++ name :: after))
      (known : ∀ n ∈ before, ∃ t, h.typeNamed? n = some t) (missing : h.typeNamed? name = none) :
      ListingFault h kind e
        (.unknownClass (Text.Dotted.simpleName kind) e.qualifiedName name)

/-- What the first annotation of a kind on an element lists, as far as it is known. -/
def listings (h : Host) (kind : String) (e : Element) : List AnnotatedClass :=
  (e.annotationOf? kind).toList.flatMap fun a =>
    (((a.value? "value").bind listedNames?).getD []).filterMap fun name =>
      (h.typeNamed? name).map fun t => ⟨.type t, internalFlag a⟩

section OneElement

variable {h : Host} {kind : String} {e : Element} {a : AnnotationUse}

theorem resolve_eq_ok_iff {internal : Bool} {name : String} {c : AnnotatedClass} :
    resolve h kind e internal name = .ok c ↔
      ∃ t, h.typeNamed? name = some t ∧ c = ⟨.type t, internal⟩ := by
  rw [resolve]
  cases h.typeNamed? name with
  | none => simp
  | some t => simp [eq_comm]

theorem resolve_eq_error_iff {internal : Bool} {name : String} {x : DiscoveryError} :
    resolve h kind e internal name = .error x ↔ h.typeNamed? name = none ∧
      x = .unknownClass (Text.Dotted.simpleName kind) e.qualifiedName name := by
  rw [resolve]
  cases h.typeNamed? name with
  | none => simp [eq_comm]
  | some t => simp

theorem filterMap_of_mapM_resolve {internal : Bool} {names : List String}
    {found : List AnnotatedClass}
    (done : names.mapM (resolve h kind e internal) = .ok found) :
    names.filterMap (fun name => (h.typeNamed? name).map fun t => ⟨.type t, internal⟩) = found := by
  have each := FirstFailure.mapM_eq_ok_iff.mp done
  clear done
  induction each with
  | nil => rfl
  | cons head _ ih =>
      obtain ⟨t, known, rfl⟩ := resolve_eq_ok_iff.mp head
      rw [List.filterMap_cons, known, ih]
      rfl

theorem listedOn_of_annotationOf? (first : e.annotationOf? kind = some a) :
    listedOn h kind e =
      (listed a e >>= fun names => names.mapM (resolve h kind e (internalFlag a))) := by
  simp only [listedOn, required, first]
  rfl

theorem listings_of_listedOn {found : List AnnotatedClass}
    (done : listedOn h kind e = .ok found) : listings h kind e = found := by
  cases first : e.annotationOf? kind with
  | none =>
      simp only [listedOn, required, first] at done
      cases done
  | some a =>
      rw [listedOn_of_annotationOf? first, listed] at done
      simp only [listings, first, Option.toList_some, List.flatMap_singleton]
      cases present : a.value? "value" with
      | none => simp [present] at done; cases done
      | some v =>
          simp only [present] at done
          cases lists : listedNames? v with
          | none => simp [lists] at done; cases done
          | some names =>
              simp only [lists] at done
              simp only [Option.bind_some, lists, Option.getD_some]
              exact filterMap_of_mapM_resolve done

theorem listingFault_of_listedOn {x : DiscoveryError} (carried : e.carries kind)
    (failed : listedOn h kind e = .error x) : ListingFault h kind e x := by
  obtain ⟨a, first⟩ := Element.exists_annotationOf?_of_carries carried
  rw [listedOn_of_annotationOf? first, listed] at failed
  cases present : a.value? "value" with
  | none =>
      simp only [present] at failed
      cases failed
      exact .noValue first present
  | some v =>
      simp only [present] at failed
      cases lists : listedNames? v with
      | none =>
          simp only [lists] at failed
          cases failed
          refine .malformed first present ?_
          intro names named
          cases lists.symm.trans (listedNames?_eq_some_iff.mpr named)
      | some names =>
          simp only [lists] at failed
          obtain ⟨before, name, after, split, known, unresolved⟩ :=
            FirstFailure.mapM_eq_error_iff.mp failed
          obtain ⟨missing, rfl⟩ := resolve_eq_error_iff.mp unresolved
          refine .unknown first present (split ▸ listedNames?_eq_some_iff.mp lists) ?_ missing
          intro n mem
          obtain ⟨c, found⟩ := known n mem
          obtain ⟨t, typed, _⟩ := resolve_eq_ok_iff.mp found
          exact ⟨t, typed⟩

theorem listedOn_of_listingFault {x : DiscoveryError} (fault : ListingFault h kind e x) :
    listedOn h kind e = .error x := by
  cases fault with
  | noValue first absent =>
      rw [listedOn_of_annotationOf? first]
      simp only [listed, absent]
      rfl
  | @malformed a v first present unlisted =>
      have unnamed : listedNames? v = none := by
        rw [Option.eq_none_iff_forall_ne_some]
        intro names lists
        exact unlisted names (listedNames?_eq_some_iff.mp lists)
      rw [listedOn_of_annotationOf? first]
      simp only [listed, present, unnamed]
      rfl
  | @unknown a v before after name first present lists known missing =>
      rw [listedOn_of_annotationOf? first]
      simp only [listed, present, listedNames?_eq_some_iff.mpr lists]
      refine FirstFailure.mapM_eq_error_iff.mpr ⟨before, name, after, rfl, ?_, ?_⟩
      · intro n mem
        obtain ⟨t, typed⟩ := known n mem
        exact ⟨_, resolve_eq_ok_iff.mpr ⟨t, typed, rfl⟩⟩
      · exact resolve_eq_error_iff.mpr ⟨missing, rfl⟩

theorem exists_listedOn_iff (carried : e.carries kind) :
    (∃ found, listedOn h kind e = .ok found) ↔ ∀ x, ¬ ListingFault h kind e x := by
  constructor
  · rintro ⟨found, done⟩ x fault
    cases done.symm.trans (listedOn_of_listingFault fault)
  · intro sound
    cases result : listedOn h kind e with
    | ok found => exact ⟨found, rfl⟩
    | error x => exact absurd (listingFault_of_listedOn carried result) (sound x)

end OneElement

/-- The classes of a registry in listing order: element by element, and name by name. -/
def registryListing (h : Host) : Option String → List AnnotatedClass
  | none => []
  | some kind => (h.annotatedWith kind).flatMap (listings h kind)

/-- The first fault that the registry annotations of a round show. -/
def FirstFault (h : Host) (kind : String) (x : DiscoveryError) : Prop :=
  ∃ before e after, h.annotatedWith kind = before ++ e :: after ∧
    (∀ b ∈ before, ∀ y, ¬ ListingFault h kind b y) ∧ ListingFault h kind e x

theorem flatMap_listings {h : Host} {kind : String} {es : List Element}
    {parts : List (List AnnotatedClass)}
    (each : List.Forall₂ (fun e part => listedOn h kind e = .ok part) es parts) :
    es.flatMap (listings h kind) = parts.flatten := by
  induction each with
  | nil => rfl
  | cons head _ ih => rw [List.flatMap_cons, listings_of_listedOn head, ih, List.flatten_cons]

theorem registryListing_of_registryClasses {h : Host} {kind : String}
    {found : List AnnotatedClass} (done : registryClasses h kind = .ok found) :
    registryListing h (some kind) = found := by
  rw [registryClasses] at done
  cases result : (h.annotatedWith kind).mapM (listedOn h kind) with
  | error x =>
      rw [result] at done
      cases done
  | ok parts =>
      rw [result] at done
      cases done
      exact flatMap_listings (FirstFailure.mapM_eq_ok_iff.mp result)

theorem registryClasses_eq_error_iff_mapM {h : Host} {kind : String} {x : DiscoveryError} :
    registryClasses h kind = .error x ↔
      (h.annotatedWith kind).mapM (listedOn h kind) = .error x := by
  rw [registryClasses]
  cases (h.annotatedWith kind).mapM (listedOn h kind) <;> simp [Functor.map, Except.map]

theorem registryClasses_eq_error_iff {h : Host} {kind : String} {x : DiscoveryError} :
    registryClasses h kind = .error x ↔ FirstFault h kind x := by
  rw [registryClasses_eq_error_iff_mapM, FirstFailure.mapM_eq_error_iff]
  constructor
  · rintro ⟨before, e, after, split, sound, failed⟩
    have carried : ∀ b ∈ h.annotatedWith kind, b.carries kind :=
      fun b mem => Host.carries_of_mem_annotatedWith mem
    rw [split] at carried
    refine ⟨before, e, after, split, ?_, ?_⟩
    · intro b mem
      exact (exists_listedOn_iff (carried b (by simp [mem]))).mp (sound b mem)
    · exact listingFault_of_listedOn (carried e (by simp)) failed
  · rintro ⟨before, e, after, split, sound, fault⟩
    have carried : ∀ b ∈ h.annotatedWith kind, b.carries kind :=
      fun b mem => Host.carries_of_mem_annotatedWith mem
    rw [split] at carried
    refine ⟨before, e, after, split, ?_, listedOn_of_listingFault fault⟩
    intro b mem
    exact (exists_listedOn_iff (carried b (by simp [mem]))).mpr (sound b mem)

end Discovery
end ClassAtlas
