import ClassAtlas.Proofs.NameLookup

/-!
The elements of a document that carry an annotation of some kind. The document lists its classes in
order, and each class its fields, its constructors and its methods, every member ahead of its own
parameters. What carries the annotation is found in this order, each element once. Types that the
document does not list are never found.
-/
namespace ClassAtlas

/-- The position of a place in a document, from the class inwards. A known type has none. -/
def Place.position : Place → List Nat
  | .known _ => []
  | .listed i => [i]
  | .member i j => [i, j]
  | .parameter i j l => [i, j, l]

/-- One element stands ahead of another: positions are compared number by number, and a position
comes before those that go on from it. -/
def Element.Precedes (e e' : Element) : Prop := e.place.position < e'.place.position

theorem Element.Precedes.place_ne {e e' : Element} (ahead : e.Precedes e') : e.place ≠ e'.place := by
  intro same
  rw [Precedes, same] at ahead
  exact absurd ahead (List.lt_irrefl _)

namespace Declarations

open TypeDeclaration (fieldOf constructorOf methodOf parameterOf namespaceOf)

/-- The elements that a document declares. The members of a class are numbered through its fields,
its constructors and its methods. -/
inductive Declares (d : Declarations) : Element → Prop where
  | type {i : Nat} {c : ClassDecl} (listed : d.classes[i]? = some c) :
      Declares d (.type (.ofDecl i c))
  | field {i j : Nat} {c : ClassDecl} {f : VariableDecl} (listed : d.classes[i]? = some c)
      (given : c.fields[j]? = some f) :
      Declares d (.member (fieldOf i (namespaceOf c) f j))
  | constructor {i j : Nat} {c : ClassDecl} {k : ConstructorDecl}
      (listed : d.classes[i]? = some c) (given : c.constructors[j]? = some k) :
      Declares d (.member (constructorOf i c.name (namespaceOf c) k (c.fields.length + j)))
  | constructorParameter {i j l : Nat} {c : ClassDecl} {k : ConstructorDecl} {p : VariableDecl}
      (listed : d.classes[i]? = some c) (given : c.constructors[j]? = some k)
      (taken : k.parameters[l]? = some p) :
      Declares d (.parameter (parameterOf i (c.fields.length + j) (namespaceOf c) l p))
  | method {i j : Nat} {c : ClassDecl} {m : MethodDecl} (listed : d.classes[i]? = some c)
      (given : c.methods[j]? = some m) :
      Declares d (.member
        (methodOf i (namespaceOf c) m (c.fields.length + c.constructors.length + j)))
  | methodParameter {i j l : Nat} {c : ClassDecl} {m : MethodDecl} {p : VariableDecl}
      (listed : d.classes[i]? = some c) (given : c.methods[j]? = some m)
      (taken : m.parameters[l]? = some p) :
      Declares d (.parameter
        (parameterOf i (c.fields.length + c.constructors.length + j) (namespaceOf c) l p))

theorem Declares.place_ne_known {d : Declarations} {e : Element} (declared : d.Declares e)
    (name : String) : e.place ≠ .known name := by
  intro known
  cases declared <;> cases known

end Declarations

theorem mem_mapIdx_iff {α β : Type} {f : Nat → α → β} {xs : List α} {y : β} :
    y ∈ xs.mapIdx f ↔ ∃ i x, xs[i]? = some x ∧ y = f i x := by
  simp only [List.mem_iff_getElem?, List.getElem?_mapIdx, Option.map_eq_some_iff,
    eq_comm (a := y)]

theorem lt_of_prefix {above p q : List Nat} {i j : Nat} (less : i < j) (first : above ++ [i] <+: p)
    (second : above ++ [j] <+: q) : p < q := by
  obtain ⟨p, rfl⟩ := first
  obtain ⟨q, rfl⟩ := second
  rw [List.append_assoc, List.append_assoc]
  apply List.append_left_lt
  exact List.cons_lt_cons_iff.mpr (.inl less)

theorem lt_append_cons (p : List Nat) (i : Nat) (rest : List Nat) : p < p ++ i :: rest := by
  have longer : p ++ [] < p ++ i :: rest := List.append_left_lt (List.nil_lt_cons i rest)
  rwa [List.append_nil] at longer

namespace TypeDeclaration

variable {i : Nat} {c : ClassDecl} {m : Member}

theorem members_ofDecl (i : Nat) (c : ClassDecl) :
    (ofDecl i c).members =
      c.fields.mapIdx (fun j f => fieldOf i (namespaceOf c) f j)
        ++ c.constructors.mapIdx
          (fun j k => constructorOf i c.name (namespaceOf c) k (c.fields.length + j))
        ++ c.methods.mapIdx
          (fun j n => methodOf i (namespaceOf c) n (c.fields.length + c.constructors.length + j)) := by
  have mapped {α β γ : Type} (f : Nat → β → γ) (g : α → β) (xs : List α) :
      (xs.map g).mapIdx f = xs.mapIdx fun i x => f i (g x) := by
    apply List.ext_getElem
    · simp
    · simp
  simp only [ofDecl, List.mapIdx_append, mapped, List.length_map, List.length_append,
    Nat.add_comm _ (c.fields.length + c.constructors.length), Nat.add_comm _ c.fields.length]

theorem mem_members_ofDecl_iff : m ∈ (ofDecl i c).members ↔
    (∃ j f, c.fields[j]? = some f ∧ m = fieldOf i (namespaceOf c) f j) ∨
    (∃ j k, c.constructors[j]? = some k ∧
      m = constructorOf i c.name (namespaceOf c) k (c.fields.length + j)) ∨
    ∃ j n, c.methods[j]? = some n ∧
      m = methodOf i (namespaceOf c) n (c.fields.length + c.constructors.length + j) := by
  rw [members_ofDecl]
  simp only [List.mem_append, mem_mapIdx_iff, or_assoc]

end TypeDeclaration

namespace Element

open TypeDeclaration

theorem mem_walk_iff {t : TypeDeclaration} {e : Element} : e ∈ walk t ↔
    e = .type t ∨ ∃ m ∈ t.members, e = .member m ∨ ∃ p ∈ m.parameters, e = .parameter p := by
  simp only [walk, List.mem_cons, List.mem_flatMap, List.mem_map, eq_comm]

/-- Blocks of elements stand in order where each of them does, and the positions in the block at an
index go on from that index. -/
theorem pairwise_flatMap_mapIdx {α β : Type} (above : List Nat) {f : Nat → α → β}
    {block : β → List Element} {xs : List α}
    (below : ∀ i x, xs[i]? = some x → ∀ e ∈ block (f i x), above ++ [i] <+: e.place.position)
    (within : ∀ i x, xs[i]? = some x → (block (f i x)).Pairwise Precedes) :
    ((xs.mapIdx f).flatMap block).Pairwise Precedes := by
  rw [List.pairwise_flatMap]
  constructor
  · intro y mem
    obtain ⟨i, x, there, rfl⟩ := mem_mapIdx_iff.mp mem
    exact within i x there
  · rw [List.pairwise_iff_getElem]
    intro i j inside inside' less e mem e' mem'
    rw [List.getElem_mapIdx] at mem mem'
    have first := below i _ (List.getElem?_eq_getElem _) e mem
    have second := below j _ (List.getElem?_eq_getElem _) e' mem'
    exact lt_of_prefix less first second

/-- A member at its position, with parameters that are numbered below it. -/
structure Numbered (i j : Nat) (m : Member) : Prop where
  place : m.place = .member i j
  parameters : ∃ namespaceName ds, m.parameters = List.mapIdx (parameterOf i j namespaceName) ds

variable {i j : Nat} {m : Member}

theorem Numbered.prefix_position (numbered : Numbered i j m) :
    ∀ e ∈ member m :: m.parameters.map parameter, [i, j] <+: e.place.position := by
  obtain ⟨place, namespaceName, ds, parameters⟩ := numbered
  intro e mem
  cases mem with
  | head =>
      change [i, j] <+: m.place.position
      rw [place]
      exact List.prefix_rfl
  | tail _ mem =>
      rw [parameters] at mem
      obtain ⟨_, taken, rfl⟩ := List.mem_map.mp mem
      obtain ⟨l, p, _, rfl⟩ := mem_mapIdx_iff.mp taken
      exact ⟨[l], rfl⟩

theorem Numbered.pairwise_precedes (numbered : Numbered i j m) :
    (member m :: m.parameters.map parameter).Pairwise Precedes := by
  obtain ⟨place, namespaceName, ds, parameters⟩ := numbered
  rw [parameters, List.pairwise_cons]
  constructor
  · intro e mem
    obtain ⟨_, taken, rfl⟩ := List.mem_map.mp mem
    obtain ⟨l, p, _, rfl⟩ := mem_mapIdx_iff.mp taken
    change m.place.position < [i, j] ++ [l]
    rw [place]
    exact lt_append_cons [i, j] l []
  · rw [List.map_eq_flatMap]
    apply pairwise_flatMap_mapIdx [i, j]
    · intro l p _ e mem
      rw [List.mem_singleton.mp mem]
      exact List.prefix_rfl
    · intro l p _
      exact List.pairwise_singleton _ _

/-- Every member of a class is numbered by its place among the members. -/
theorem numbered_of_mem {c : ClassDecl} {m : MemberAt}
    (mem : m ∈ c.fields.map (fieldOf i (namespaceOf c))
      ++ c.constructors.map (constructorOf i c.name (namespaceOf c))
      ++ c.methods.map (methodOf i (namespaceOf c))) (j : Nat) : Numbered i j (m j) := by
  simp only [List.mem_append, List.mem_map] at mem
  obtain (⟨f, _, rfl⟩ | ⟨k, _, rfl⟩) | ⟨n, _, rfl⟩ := mem
  · exact ⟨rfl, namespaceOf c, [], rfl⟩
  · exact ⟨rfl, namespaceOf c, k.parameters, rfl⟩
  · exact ⟨rfl, namespaceOf c, n.parameters, rfl⟩

theorem prefix_position_walk_ofDecl (i : Nat) (c : ClassDecl) :
    ∀ e ∈ walk (ofDecl i c), [i] <+: e.place.position := by
  intro e mem
  cases mem with
  | head => exact List.prefix_rfl
  | tail _ mem =>
      obtain ⟨m, mem, walked⟩ := List.mem_flatMap.mp mem
      obtain ⟨j, m, there, rfl⟩ := mem_mapIdx_iff.mp mem
      have numbered := numbered_of_mem (List.mem_of_getElem? there) j
      exact List.IsPrefix.trans ⟨[j], rfl⟩ (numbered.prefix_position e walked)

theorem pairwise_precedes_walk_ofDecl (i : Nat) (c : ClassDecl) :
    (walk (ofDecl i c)).Pairwise Precedes := by
  rw [walk, List.pairwise_cons]
  constructor
  · intro e mem
    obtain ⟨m, mem, walked⟩ := List.mem_flatMap.mp mem
    obtain ⟨j, m, there, rfl⟩ := mem_mapIdx_iff.mp mem
    have numbered := numbered_of_mem (List.mem_of_getElem? there) j
    obtain ⟨rest, position⟩ := numbered.prefix_position e walked
    change [i] < e.place.position
    rw [← position]
    exact lt_append_cons [i] j rest
  · apply pairwise_flatMap_mapIdx [i]
    · intro j m there
      exact (numbered_of_mem (List.mem_of_getElem? there) j).prefix_position
    · intro j m there
      exact (numbered_of_mem (List.mem_of_getElem? there) j).pairwise_precedes

end Element

namespace Host

open TypeDeclaration Declarations.Declares

variable {d : Declarations} {withStandard : Bool} {e : Element}

theorem mem_elements_iff :
    e ∈ (ofDeclarations d withStandard).elements ↔ d.Declares e := by
  simp only [elements, ofDeclarations, List.mem_flatMap, mem_mapIdx_iff, Element.mem_walk_iff]
  constructor
  · intro walked
    obtain ⟨t, ⟨i, c, listed, rfl⟩, rfl | ⟨m, given, own⟩⟩ := walked
    · exact .type listed
    · rw [mem_members_ofDecl_iff] at given
      obtain ⟨j, f, given, rfl⟩ | ⟨j, k, given, rfl⟩ | ⟨j, n, given, rfl⟩ := given
      · obtain rfl | ⟨p, taken, rfl⟩ := own
        · exact .field listed given
        · cases taken
      · obtain rfl | ⟨_, own, rfl⟩ := own
        · exact .constructor listed given
        · obtain ⟨l, p, taken, rfl⟩ := mem_mapIdx_iff.mp own
          exact .constructorParameter listed given taken
      · obtain rfl | ⟨_, own, rfl⟩ := own
        · exact .method listed given
        · obtain ⟨l, p, taken, rfl⟩ := mem_mapIdx_iff.mp own
          exact .methodParameter listed given taken
  · intro declared
    cases declared with
    | type listed => exact ⟨_, ⟨_, _, listed, rfl⟩, .inl rfl⟩
    | @field i j c f listed given =>
        have own := mem_members_ofDecl_iff (i := i).mpr (.inl ⟨j, f, given, rfl⟩)
        exact ⟨_, ⟨i, c, listed, rfl⟩, .inr ⟨_, own, .inl rfl⟩⟩
    | @constructor i j c k listed given =>
        have own := mem_members_ofDecl_iff (i := i).mpr (.inr (.inl ⟨j, k, given, rfl⟩))
        exact ⟨_, ⟨i, c, listed, rfl⟩, .inr ⟨_, own, .inl rfl⟩⟩
    | @constructorParameter i j l c k p listed given taken =>
        have own := mem_members_ofDecl_iff (i := i).mpr (.inr (.inl ⟨j, k, given, rfl⟩))
        refine ⟨_, ⟨i, c, listed, rfl⟩, .inr ⟨_, own, .inr ⟨_, ?_, rfl⟩⟩⟩
        exact mem_mapIdx_iff.mpr ⟨l, p, taken, rfl⟩
    | @method i j c n listed given =>
        have own := mem_members_ofDecl_iff (i := i).mpr (.inr (.inr ⟨j, n, given, rfl⟩))
        exact ⟨_, ⟨i, c, listed, rfl⟩, .inr ⟨_, own, .inl rfl⟩⟩
    | @methodParameter i j l c n p listed given taken =>
        have own := mem_members_ofDecl_iff (i := i).mpr (.inr (.inr ⟨j, n, given, rfl⟩))
        refine ⟨_, ⟨i, c, listed, rfl⟩, .inr ⟨_, own, .inr ⟨_, ?_, rfl⟩⟩⟩
        exact mem_mapIdx_iff.mpr ⟨l, p, taken, rfl⟩

/-- The elements of a document stand in its order. -/
theorem pairwise_precedes_elements :
    (ofDeclarations d withStandard).elements.Pairwise Element.Precedes := by
  rw [elements, ofDeclarations]
  apply Element.pairwise_flatMap_mapIdx []
  · intro i c _ e walked
    exact Element.prefix_position_walk_ofDecl i c e walked
  · intro i c _
    exact Element.pairwise_precedes_walk_ofDecl i c

theorem mem_annotatedWith_iff {h : Host} {kind : String} :
    e ∈ h.annotatedWith kind ↔ e ∈ h.elements ∧ ∃ a ∈ e.annotations, a.kind = kind := by
  simp only [annotatedWith, List.mem_filter, Element.carries, List.any_eq_true, beq_iff_eq]

/-- A name that a later class bears as well does not lead to the earlier one. -/
theorem exists_typeNamed?_of_later {i j : Nat} {c c' : ClassDecl} (later : i < j)
    (listed : d.classes[i]? = some c) (listed' : d.classes[j]? = some c')
    (same : c'.name = c.name) :
    ∃ t, (ofDeclarations d withStandard).typeNamed? c.name = some t ∧ t.place ≠ .listed i := by
  have there : (ofDeclarations d withStandard).classes[i]? = some (ofDecl i c) := by
    simp [ofDeclarations, listed]
  have there' : (ofDeclarations d withStandard).classes[j]? = some (ofDecl j c') := by
    simp [ofDeclarations, listed']
  obtain ⟨before, u, after, split, _, last, found⟩ := exists_last_of_mem (List.mem_of_getElem? there)
  refine ⟨u, found, ?_⟩
  intro place
  have own : (ofDeclarations d withStandard).classes[before.length]? = some u := by simp [split]
  have index : before.length = i := by
    simp only [ofDeclarations, List.getElem?_mapIdx, Option.map_eq_some_iff] at own
    obtain ⟨_, _, rfl⟩ := own
    exact Place.listed.inj place
  have beyond : ofDecl j c' ∈ after := by
    have further : j - before.length = j - before.length - 1 + 1 := by omega
    rw [split, List.getElem?_append_right (by omega), further, List.getElem?_cons_succ] at there'
    exact List.mem_of_getElem? there'
  exact last _ beyond same

/-- What is found of a document are just the elements it declares that carry an annotation of the
kind. They stand in the order of the document, so each is found once, and the annotation that is
looked up on one is its first of the kind. No known type is among them. A class that carries the
annotation is, even where its name leads to a later class of that name. -/
theorem annotated_in_document_order (d : Declarations) (withStandard : Bool) (kind : String) :
    let h := ofDeclarations d withStandard
    let found := h.annotatedWith kind
    (∀ e, e ∈ found ↔ d.Declares e ∧ ∃ a ∈ e.annotations, a.kind = kind) ∧
    found.Pairwise Element.Precedes ∧
    (found.map Element.place).Nodup ∧
    (∀ e ∈ found, ∃ a before after, e.annotationOf? kind = some a ∧ a.kind = kind ∧
      e.annotations = before ++ a :: after ∧ ∀ b ∈ before, b.kind ≠ kind) ∧
    (∀ e ∈ found, ∀ name, e.place ≠ .known name) ∧
    ∀ i j c c', i < j → d.classes[i]? = some c → d.classes[j]? = some c' → c'.name = c.name →
      (∃ t, h.typeNamed? c.name = some t ∧ t.place ≠ .listed i) ∧
      ((∃ a ∈ c.annotations, a.kind = kind) → .type (.ofDecl i c) ∈ found) := by
  intro h found
  have declared : ∀ e, e ∈ found ↔ d.Declares e ∧ ∃ a ∈ e.annotations, a.kind = kind := by
    intro e
    rw [mem_annotatedWith_iff, mem_elements_iff]
  have ordered : found.Pairwise Element.Precedes := pairwise_precedes_elements.filter _
  refine ⟨declared, ordered, ?_, ?_, ?_, ?_⟩
  · exact List.pairwise_map.mpr (ordered.imp Element.Precedes.place_ne)
  · intro e mem
    obtain ⟨a, first⟩ :=
      Element.exists_annotationOf?_of_carries (carries_of_mem_annotatedWith mem)
    obtain ⟨kindred, before, after, split, none⟩ := Element.annotationOf?_eq_some_iff.mp first
    exact ⟨a, before, after, first, kindred, split, none⟩
  · intro e mem
    exact ((declared e).mp mem).1.place_ne_known
  · intro i j c c' later listed listed' same
    refine ⟨exists_typeNamed?_of_later later listed listed' same, ?_⟩
    intro carried
    exact (declared _).mpr ⟨.type listed, carried⟩

end Host
end ClassAtlas
