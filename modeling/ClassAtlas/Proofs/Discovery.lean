import ClassAtlas.Generator.Basic
import ClassAtlas.Proofs.ClassSetOrder
import ClassAtlas.Proofs.Listings

/-!
What a discovery finds, in which order, and when it fails. Direct classes stand in the order of the
document, and after them what the registry annotations list beyond these. Only a registry
annotation can make a discovery fail; the run that asked for it is then as before.
-/
namespace ClassAtlas

namespace Discovery

/-- Classes found by registry alone, by the first listing of each. -/
def beyond (direct registry : List AnnotatedClass) : List AnnotatedClass :=
  (registry.filter fun c => c.place ∉ direct.map AnnotatedClass.place).eraseDupsBy
    AnnotatedClass.same

theorem directListing_places_nodup (d : Declarations) (withStandard : Bool) (kind : String) :
    ((directListing (.ofDeclarations d withStandard) kind).map AnnotatedClass.place).Nodup := by
  rw [directListing, List.map_map]
  exact (Host.nodup_places d withStandard).sublist (List.filter_sublist.map _)

theorem discover_of_registryKind_none (h : Host) (directKind : String) :
    discover h directKind none = .ok ⟨directListing h directKind, []⟩ := by
  rw [discover, directClasses_eq]
  rfl

theorem discover_of_registryKind_some (h : Host) (directKind kind : String) :
    discover h directKind (some kind) = (Found.mk (directListing h directKind)) <$>
      registryClasses h kind := by
  rw [discover, directClasses_eq]
  simp only [bind, Except.bind]
  cases registryClasses h kind <;> rfl

theorem found_eq_of_discover {h : Host} {directKind : String} {registryKind : Option String}
    {found : Found} (done : discover h directKind registryKind = .ok found) :
    found = ⟨directListing h directKind, registryListing h registryKind⟩ := by
  cases registryKind with
  | none =>
      rw [discover_of_registryKind_none] at done
      cases done
      rfl
  | some kind =>
      rw [discover_of_registryKind_some] at done
      cases result : registryClasses h kind with
      | error x =>
          rw [result] at done
          cases done
      | ok registry =>
          rw [result] at done
          cases done
          rw [registryListing_of_registryClasses result]

theorem discover_eq_error_iff {h : Host} {directKind : String} {registryKind : Option String}
    {x : DiscoveryError} : discover h directKind registryKind = .error x ↔
      ∃ kind, registryKind = some kind ∧ FirstFault h kind x := by
  cases registryKind with
  | none =>
      rw [discover_of_registryKind_none]
      simp
  | some kind =>
      rw [discover_of_registryKind_some]
      simp only [Option.some.injEq, exists_eq_left', ← registryClasses_eq_error_iff]
      cases registryClasses h kind <;> simp [Functor.map, Except.map]

theorem ListingFault.carries {h : Host} {kind : String} {e : Element} {x : DiscoveryError}
    (fault : ListingFault h kind e x) : e.carries kind := by
  rw [← Element.isSome_annotationOf?]
  cases fault with
  | noValue first => simp [first]
  | malformed first => simp [first]
  | unknown first => simp [first]

/-- A round that has a fault has a first one. -/
theorem exists_firstFault_iff {h : Host} {kind : String} :
    (∃ x, FirstFault h kind x) ↔ ∃ e ∈ h.elements, ∃ x, ListingFault h kind e x := by
  have failing : (∃ x, FirstFault h kind x) ↔
      ∃ x, (h.annotatedWith kind).mapM (listedOn h kind) = .error x :=
    exists_congr fun x => registryClasses_eq_error_iff.symm.trans registryClasses_eq_error_iff_mapM
  rw [failing, FirstFailure.exists_mapM_eq_error_iff]
  constructor
  · rintro ⟨e, mem, x, failed⟩
    exact ⟨e, List.mem_of_mem_filter mem, x,
      listingFault_of_listedOn (Host.carries_of_mem_annotatedWith mem) failed⟩
  · rintro ⟨e, mem, x, fault⟩
    exact ⟨e, List.mem_filter.mpr ⟨mem, fault.carries⟩, x, listedOn_of_listingFault fault⟩

theorem exists_discover_eq_error_iff {h : Host} {directKind : String}
    {registryKind : Option String} :
    (∃ x, discover h directKind registryKind = .error x) ↔
      ∃ kind, registryKind = some kind ∧ ∃ e ∈ h.elements, ∃ x, ListingFault h kind e x := by
  simp only [discover_eq_error_iff, ← exists_firstFault_iff]
  constructor
  · rintro ⟨x, kind, given, fault⟩
    exact ⟨kind, given, x, fault⟩
  · rintro ⟨kind, given, x, fault⟩
    exact ⟨x, kind, given, fault⟩

end Discovery

open Discovery

/-- What a discovery that succeeds lists, and what it leaves of the run that asked for it. -/
structure Discovered (h : Host) (directKind : String) (registryKind : Option String)
    (before after : Session) (found : ClassSet) : Prop where
  listed : found.toList = directListing h directKind ++
    beyond (directListing h directKind) (registryListing h registryKind)
  distinct : (found.toList.map AnnotatedClass.place).Nodup
  recorded : after = { before with
    diagnostics := before.diagnostics ++
      (if before.debug then
        [⟨.info, AnnotatedClass.shownAll (registryListing h registryKind)⟩,
          ⟨.info, AnnotatedClass.shownAll (directListing h directKind)⟩]
      else []) ++
      if found.toList = [] then []
      else [⟨.info, "Found " ++ Text.Dotted.simpleName directKind ++ " classes: " ++ found.shown⟩] }

namespace Generator

variable {g : Generator} {directKind : String} {registryKind : Option String} {s : Session}

theorem discover_of_error {x : DiscoveryError}
    (failed : Discovery.discover g.host directKind registryKind = .error x) :
    g.discover directKind registryKind s = (s, .error x) := by
  rw [discover, failed]

theorem discover_of_ok {found : Found}
    (done : Discovery.discover g.host directKind registryKind = .ok found) :
    g.discover directKind registryKind s =
      ((found.summary? directKind).elim (s.traceAll found.trace) fun summary =>
          (s.traceAll found.trace).note summary,
        .ok found.classes) := by
  rw [discover, done]
  dsimp only
  cases found.summary? directKind <;> rfl

theorem summarized (found : Found) (s : Session) :
    (found.summary? directKind).elim s (fun summary => s.note summary) = { s with
      diagnostics := s.diagnostics ++
        if found.classes.toList = [] then []
        else [⟨.info, "Found " ++ Text.Dotted.simpleName directKind ++ " classes: " ++
          found.classes.shown⟩] } := by
  rw [Found.summary?, ClassSet.isNotEmpty]
  by_cases none : found.classes.toList = []
  · rw [if_pos none, show found.classes.classes = [] from none]
    simp
  · rw [if_neg none]
    have some : (!found.classes.classes.isEmpty) = true := by
      rw [Bool.not_eq_true', List.isEmpty_eq_false_iff]
      exact none
    rw [if_pos some]
    rfl

theorem discovered_of_ok {d : Declarations} {withStandard : Bool} {found : Found}
    (onFile : g.host = .ofDeclarations d withStandard)
    (done : Discovery.discover g.host directKind registryKind = .ok found) :
    Discovered g.host directKind registryKind s
      ((found.summary? directKind).elim (s.traceAll found.trace) fun summary =>
        (s.traceAll found.trace).note summary)
      found.classes := by
  cases found_eq_of_discover done
  refine ⟨?_, ClassSet.distinct _, ?_⟩
  · have distinct : ((directListing g.host directKind).map AnnotatedClass.place).Nodup := by
      rw [onFile]
      exact directListing_places_nodup d withStandard directKind
    exact ClassSet.toList_ofList_append _ distinct
  · rw [summarized, Session.traceAll_eq]
    rfl

/-- A discovery on a document finds its classes, or it fails and leaves the run as it was. It fails
when some element of the document has a first registry annotation with a fault, and the first such
fault is the one it reports. -/
theorem discover_outcome {d : Declarations} {withStandard : Bool} (g : Generator)
    (onFile : g.host = .ofDeclarations d withStandard) (directKind : String)
    (registryKind : Option String) (s : Session) :
    (∀ s' found, g.discover directKind registryKind s = (s', .ok found) →
      Discovered g.host directKind registryKind s s' found) ∧
    (∀ s' x, g.discover directKind registryKind s = (s', .error x) →
      s' = s ∧ ∃ kind, registryKind = some kind ∧ FirstFault g.host kind x) ∧
    ((∃ s' x, g.discover directKind registryKind s = (s', .error x)) ↔
      ∃ kind, registryKind = some kind ∧
        ∃ e ∈ g.host.elements, ∃ x, ListingFault g.host kind e x) := by
  cases result : Discovery.discover g.host directKind registryKind with
  | error x =>
      rw [discover_of_error result]
      refine ⟨?_, ?_, ?_⟩
      · rintro s' found ⟨⟩
      · rintro s' y ⟨⟩
        exact ⟨rfl, discover_eq_error_iff.mp result⟩
      · exact ⟨fun _ => exists_discover_eq_error_iff.mp ⟨x, result⟩, fun _ => ⟨s, x, rfl⟩⟩
  | ok found =>
      rw [discover_of_ok result]
      refine ⟨?_, ?_, ?_⟩
      · rintro s' classes ⟨⟩
        exact discovered_of_ok onFile result
      · rintro s' x ⟨⟩
      · constructor
        · rintro ⟨s', x, ⟨⟩⟩
        · intro fault
          obtain ⟨x, failed⟩ := exists_discover_eq_error_iff.mpr fault
          cases failed.symm.trans result

/-- A tagged class, and a registry that lists it with its own class. -/
def taggedAndListed : Declarations where
  classes :=
    let plain (name : String) (a : AnnotationUse) : ClassDecl :=
      ⟨name, .plainClass, none, [], [a], [], [], [], []⟩
    [plain "a.A" ⟨"Tag", [("internal", .bool true)]⟩,
      plain "a.B" ⟨"Registry", [("value", .seq [.str "a.A", .str "a.B"])]⟩]

theorem discover_outcome_taggedAndListed :
    ∃ s' found, (ofConfig (.ofDeclarations taggedAndListed false) .standard []).discover
        "Tag" (some "Registry") (.start false ⟨[], []⟩) = (s', .ok found) ∧
      found.toList.map (fun c => (c.qualifiedName, c.internal)) = [("a.A", true), ("a.B", false)] := by
  refine ⟨_, _, rfl, ?_⟩
  have outcome := discover_outcome
    (ofConfig (.ofDeclarations taggedAndListed false) .standard []) rfl
    "Tag" (some "Registry") (.start false ⟨[], []⟩)
  rw [(outcome.1 _ _ rfl).listed]
  decide

end Generator
end ClassAtlas
