import Mathlib.Data.List.Forall2
import Mathlib.Data.List.Induction
import Mathlib.Logic.Function.Basic
import ClassAtlas.ClassSets
import ClassAtlas.Proofs.ClassSetOrder

/-!
What named sets of classes hold and answer after any run of changes. The account of a set lists the
classes offered to it since it was made, whether it took them or not: of each declaration the set
holds the first class offered, in the order of these offers, and what it answers about a declaration
depends on the offers of it alone. A change writes to one account and leaves the others as they are.
-/
namespace ClassAtlas

namespace AnnotatedClass

/-- Of each declaration the first class. -/
def firsts (offers : List AnnotatedClass) : List AnnotatedClass := offers.eraseDupsBy same

/-- The class offered at a position is the first of its declaration. -/
def IsNewAt (offers : List AnnotatedClass) (i : Nat) : Prop :=
  ∃ c, offers[i]? = some c ∧ ∀ d ∈ offers.take i, d.place ≠ c.place

theorem IsNewAt.lt {offers : List AnnotatedClass} {i : Nat} (new : IsNewAt offers i) :
    i < offers.length := by
  obtain ⟨c, there, _⟩ := new
  exact (List.getElem?_eq_some_iff.mp there).1

theorem isNewAt_concat {offers : List AnnotatedClass} {c : AnnotatedClass} {i : Nat} :
    IsNewAt (offers ++ [c]) i ↔
      IsNewAt offers i ∨ i = offers.length ∧ ∀ d ∈ offers, d.place ≠ c.place := by
  rcases Nat.lt_trichotomy i offers.length with before | rfl | after
  · have other : i ≠ offers.length := Nat.ne_of_lt before
    simp [IsNewAt, List.getElem?_append_left before, other,
      List.take_append_of_le_length (Nat.le_of_lt before)]
  · simp [IsNewAt]
  · have outside : ¬ IsNewAt (offers ++ [c]) i := by
      intro new
      have inside := new.lt
      rw [List.length_append, List.length_singleton] at inside
      omega
    refine iff_of_false outside ?_
    rintro (new | ⟨rfl, _⟩)
    · exact Nat.lt_asymm after new.lt
    · exact Nat.lt_irrefl _ after

end AnnotatedClass

namespace Operand

/-- An element stands for its declaration, and so does a class that wraps it. -/
inductive StandsFor : Operand → Place → Prop
  | bare (e : Element) : StandsFor (.bare e) e.place
  | wrapped (c : AnnotatedClass) : StandsFor (.wrapped c) c.place

def isClass : Operand → Bool
  | wrapped _ => true
  | _ => false

/-- The classes among some operands, up to the first that is none. -/
def classes : List Operand → List AnnotatedClass
  | wrapped c :: rest => c :: classes rest
  | _ => []

end Operand

namespace ClassSet

/-- What a set of classes is after these were offered to it in turn. -/
structure Reflects (s : ClassSet) (offers : List AnnotatedClass) : Prop where
  lists : s.toList = AnnotatedClass.firsts offers
  distinct : (s.toList.map AnnotatedClass.place).Nodup
  inOrder : ∃ positions : List Nat, positions.Pairwise (· < ·) ∧
    (∀ i, i ∈ positions ↔ AnnotatedClass.IsNewAt offers i) ∧
    List.Forall₂ (fun i c => offers[i]? = some c) positions s.toList
  holds : ∀ {o place}, o.StandsFor place →
    s.holds o = .ok (decide (∃ c ∈ offers, c.place = place))
  isMember : ∀ {o place}, o.StandsFor place →
    s.isMember o = .ok (decide (∃ c ∈ offers, c.place = place))
  find? : ∀ {o place}, o.StandsFor place →
    s.find? o = .ok (offers.find? (·.place = place))
  foreign : ∀ {v}, v.isKey = true → s.holds (.foreign v) = .ok false ∧
    s.isMember (.foreign v) = .ok false ∧ s.find? (.foreign v) = .ok none
  unkeyed : ∀ {v}, v.isKey = false → s.holds (.foreign v) = .error .notAKey ∧
    s.isMember (.foreign v) = (if v.isMutable then .ok false else .error .notAKey) ∧
    s.find? (.foreign v) = .error .notAKey

theorem ofList_concat (classes : List AnnotatedClass) (c : AnnotatedClass) :
    ofList (classes ++ [c]) = (ofList classes).add c := by
  simp only [ofList, addAll]
  rw [List.foldl_append, List.foldl_cons, List.foldl_nil]

theorem contains_ofList_eq (offers : List AnnotatedClass) (place : Place) :
    (ofList offers).contains place = decide (∃ c ∈ offers, c.place = place) := by
  rw [Bool.eq_iff_iff, contains_ofList, List.mem_map, decide_eq_true_iff]

theorem get?_add (s : ClassSet) (c : AnnotatedClass) (place : Place) :
    (s.add c).get? place = (s.get? place).or (if c.place = place then some c else none) := by
  cases old : s.contains c.place with
  | true =>
      rw [add_of_contains old]
      by_cases same : c.place = place
      · obtain ⟨d, mem, alike⟩ := List.any_eq_true.mp old
        have found : (s.get? place).isSome := by
          rw [get?, List.find?_isSome]
          exact ⟨d, mem, same ▸ alike⟩
        rw [Option.or_of_isSome found]
      · simp [same]
  | false =>
      have listed : (s.add c).classes = s.classes ++ [c] := toList_add_of_not_contains old
      rw [get?, listed, List.find?_append]
      by_cases same : c.place = place <;> simp [same, get?]

theorem get?_ofList (offers : List AnnotatedClass) (place : Place) :
    (ofList offers).get? place = offers.find? (·.place = place) := by
  induction offers using List.reverseRecOn with
  | nil => rfl
  | append_singleton offers c ih =>
      rw [ofList_concat, get?_add, ih, List.find?_append]
      by_cases same : c.place = place <;> simp [same]

/-- The classes listed are those offered at the positions where a declaration is new. -/
theorem exists_positions_of_ofList (offers : List AnnotatedClass) :
    ∃ positions : List Nat, positions.Pairwise (· < ·) ∧
      (∀ i, i ∈ positions ↔ AnnotatedClass.IsNewAt offers i) ∧
      List.Forall₂ (fun i c => offers[i]? = some c) positions (ofList offers).toList := by
  induction offers using List.reverseRecOn with
  | nil => exact ⟨[], .nil, fun i => by simp [AnnotatedClass.IsNewAt], .nil⟩
  | append_singleton offers c ih =>
      obtain ⟨positions, increasing, new, each⟩ := ih
      have still : List.Forall₂ (fun i d => (offers ++ [c])[i]? = some d) positions
          (ofList offers).toList := by
        refine each.imp fun i d there => ?_
        rw [List.getElem?_append_left (List.getElem?_eq_some_iff.mp there).1, there]
      have held := contains_ofList_eq offers c.place
      rw [ofList_concat]
      cases old : (ofList offers).contains c.place with
      | true =>
          rw [old, eq_comm, decide_eq_true_iff] at held
          obtain ⟨d, offered, same⟩ := held
          have not : ¬ ∀ d ∈ offers, d.place ≠ c.place := fun none => none d offered same
          refine ⟨positions, increasing, fun i => ?_, by rwa [add_of_contains old]⟩
          rw [new, AnnotatedClass.isNewAt_concat, or_iff_left (not ·.2)]
      | false =>
          rw [old, eq_comm, decide_eq_false_iff_not] at held
          have none : ∀ d ∈ offers, d.place ≠ c.place := fun d mem same => held ⟨d, mem, same⟩
          refine ⟨positions ++ [offers.length], ?_, fun i => ?_, ?_⟩
          · rw [List.pairwise_append]
            refine ⟨increasing, List.pairwise_singleton _ _, fun i mem j last => ?_⟩
            rw [List.mem_singleton] at last
            exact last ▸ ((new i).mp mem).lt
          · rw [List.mem_append, List.mem_singleton, new, AnnotatedClass.isNewAt_concat,
              and_iff_left none]
          · rw [toList_add_of_not_contains old]
            exact List.rel_append still (.cons (by simp) .nil)

theorem reflects_ofList (offers : List AnnotatedClass) : (ofList offers).Reflects offers where
  lists := toList_ofList offers
  distinct := (ofList offers).distinct
  inOrder := exists_positions_of_ofList offers
  holds stands := by
    rw [← contains_ofList_eq]
    cases stands <;> rfl
  isMember stands := by
    rw [← contains_ofList_eq]
    cases stands <;> rfl
  find? stands := by
    rw [← get?_ofList]
    cases stands <;> rfl
  foreign key := by simp [holds, find?, isMember, Operand.place?, key]
  unkeyed other := by simp [holds, find?, isMember, Operand.place?, other]

end ClassSet

/-- The name of the set that a change makes or adds to. -/
def SetChange.target : SetChange → String
  | create name _ | insert name _ | select _ name _ | visit _ name _ => name

/-- The classes offered to the set under each name since that set was made. -/
abbrev Offers := String → List AnnotatedClass

namespace Offers

/-- What the actions of a visit add, for each class that its set holds when it starts. -/
def handed (offers : Offers) (source : String) (added : AnnotatedClass → List Operand) :
    List Operand :=
  (AnnotatedClass.firsts (offers source)).flatMap added

/-- The accounts after a change. A set is made of classes only; additions to a set go on up to the
first operand that is no class. -/
def next (offers : Offers) : SetChange → Offers
  | .create name items =>
      if items.all Operand.isClass then Function.update offers name (Operand.classes items)
      else offers
  | .insert name item => Function.update offers name (offers name ++ Operand.classes [item])
  | .select source into keep =>
      Function.update offers into ((AnnotatedClass.firsts (offers source)).filter keep)
  | .visit source into added =>
      Function.update offers into (offers into ++ Operand.classes (offers.handed source added))

def reply (offers : Offers) : SetChange → SetReply
  | .create _ items => if items.all Operand.isClass then .done else .refused .notAClass
  | .insert name (.wrapped c) => .inserted (decide (∀ d ∈ offers name, d.place ≠ c.place))
  | .insert _ _ => .refused .notAClass
  | .select _ _ _ => .done
  | .visit source _ added =>
      if (offers.handed source added).all Operand.isClass then
        .visited (AnnotatedClass.firsts (offers source))
      else .refused .notAClass

theorem next_of_ne_target (offers : Offers) {change : SetChange} {name : String}
    (other : name ≠ change.target) : offers.next change name = offers name := by
  cases change with
  | create target items =>
      rw [next]
      split
      · exact Function.update_of_ne other _ _
      · rfl
  | insert target _ | select _ target _ | visit _ target _ =>
      exact Function.update_of_ne other _ _

end Offers

namespace ClassSets

def run (changes : List SetChange) : ClassSets :=
  changes.foldl (fun sets change => (sets.apply change).1) .empty

def offered (changes : List SetChange) : Offers := changes.foldl Offers.next fun _ => []

/-- Each set is made of the classes offered to it. -/
def Agrees (sets : ClassSets) (offers : Offers) : Prop :=
  ∀ name, sets.get name = .ofList (offers name)

variable {sets : ClassSets} {offers : Offers}

theorem Agrees.put (agrees : sets.Agrees offers) (name : String) (classes : List AnnotatedClass) :
    (sets.put name (.ofList classes)).Agrees (Function.update offers name classes) := by
  intro other
  by_cases same : other = name
  · rw [same, get_put_self, Function.update_self]
  · rw [get_put_of_ne sets _ same, Function.update_of_ne same, agrees]

theorem Agrees.none_added (agrees : sets.Agrees offers) (name : String) :
    sets.Agrees (Function.update offers name (offers name ++ [])) := by
  rw [List.append_nil, Function.update_eq_self]
  exact agrees

theorem Agrees.insert (agrees : sets.Agrees offers) (name : String) (c : AnnotatedClass) :
    (sets.insert name c).Agrees (Function.update offers name (offers name ++ [c])) := by
  rw [ClassSets.insert, agrees name, ← ClassSet.ofList_concat]
  exact agrees.put name _

theorem Agrees.insertAll (agrees : sets.Agrees offers) (name : String) (items : List Operand) :
    (sets.insertAll name items).1.Agrees
      (Function.update offers name (offers name ++ Operand.classes items)) := by
  induction items generalizing sets offers with
  | nil => exact agrees.none_added name
  | cons o rest ih =>
      cases o with
      | wrapped c =>
          have added := ih (agrees.insert name c)
          rw [Function.update_self, Function.update_idem, List.append_assoc,
            List.singleton_append] at added
          exact added
      | bare e | foreign v => exact agrees.none_added name

theorem insertAll_snd (sets : ClassSets) (name : String) (items : List Operand) :
    (sets.insertAll name items).2 =
      if items.all Operand.isClass then none else some .notAClass := by
  induction items generalizing sets with
  | nil => rfl
  | cons o rest ih =>
      cases o with
      | wrapped c => exact ih (sets.insert name c)
      | bare e | foreign v => rfl

theorem insertAll_append (sets : ClassSets) (name : String) (items others : List Operand) :
    sets.insertAll name (items ++ others) =
      match sets.insertAll name items with
      | (next, none) => next.insertAll name others
      | (next, some e) => (next, some e) := by
  induction items generalizing sets with
  | nil => rfl
  | cons o rest ih =>
      cases o with
      | wrapped c => exact ih (sets.insert name c)
      | bare e | foreign v => rfl

/-- A visit adds what its actions add, one after another. -/
theorem visitAll_eq_insertAll (sets : ClassSets) (into : String)
    (added : AnnotatedClass → List Operand) (visited : List AnnotatedClass) :
    sets.visitAll into added visited = sets.insertAll into (visited.flatMap added) := by
  induction visited generalizing sets with
  | nil => rfl
  | cons c rest ih =>
      rw [List.flatMap_cons, insertAll_append, visitAll]
      rcases sets.insertAll into (added c) with ⟨next, _ | e⟩
      · exact ih next
      · rfl

theorem mapM_class? (items : List Operand) :
    items.mapM Operand.class? =
      if items.all Operand.isClass then .ok (Operand.classes items) else .error .notAClass := by
  induction items with
  | nil => rfl
  | cons o rest ih =>
      cases o with
      | wrapped c =>
          rw [List.mapM_cons, ih, List.all_cons, Operand.isClass, Bool.true_and]
          cases rest.all Operand.isClass <;> rfl
      | bare e | foreign v => rfl

theorem Agrees.toList (agrees : sets.Agrees offers) (name : String) :
    (sets.get name).toList = AnnotatedClass.firsts (offers name) := by
  rw [agrees name, ClassSet.toList_ofList]
  rfl

theorem Agrees.apply_visit (agrees : sets.Agrees offers) (source into : String)
    (added : AnnotatedClass → List Operand) :
    sets.apply (.visit source into added) =
      ((sets.insertAll into (offers.handed source added)).1,
        offers.reply (.visit source into added)) := by
  have result := sets.insertAll_snd into (offers.handed source added)
  rw [ClassSets.apply, visitAll_eq_insertAll, agrees.toList, ← Offers.handed, Offers.reply]
  rcases ran : sets.insertAll into (offers.handed source added) with ⟨next, outcome⟩
  rw [ran] at result
  dsimp only at result
  subst result
  cases (offers.handed source added).all Operand.isClass <;> rfl

theorem Agrees.apply (agrees : sets.Agrees offers) (change : SetChange) :
    (sets.apply change).1.Agrees (offers.next change) := by
  cases change with
  | create name items =>
      rw [ClassSets.apply, mapM_class?, Offers.next]
      cases items.all Operand.isClass with
      | true => exact agrees.put name _
      | false => exact agrees
  | insert name item =>
      cases item with
      | wrapped c => exact agrees.insert name c
      | bare e | foreign v => exact agrees.none_added name
  | select source into keep =>
      have kept : (sets.get source).filter keep =
          .ofList ((AnnotatedClass.firsts (offers source)).filter keep) := by
        rw [← agrees.toList]
        rfl
      rw [ClassSets.apply, kept]
      exact agrees.put into _
  | visit source into added =>
      rw [agrees.apply_visit]
      exact agrees.insertAll into _

theorem Agrees.reply (agrees : sets.Agrees offers) (change : SetChange) :
    (sets.apply change).2 = offers.reply change := by
  cases change with
  | create name items =>
      rw [ClassSets.apply, mapM_class?, Offers.reply]
      cases items.all Operand.isClass <;> rfl
  | insert name item =>
      cases item with
      | wrapped c =>
          have absent : (!(sets.get name).contains c.place) =
              decide (∀ d ∈ offers name, d.place ≠ c.place) := by
            rw [agrees name, ClassSet.contains_ofList_eq, ← decide_not]
            exact decide_eq_decide.mpr (by simp)
          rw [Offers.reply, ← absent]
          rfl
      | bare e | foreign v => rfl
  | select source into keep => rfl
  | visit source into added => rw [agrees.apply_visit]

/-- A class whose declaration is present changes no set. -/
theorem get_insert_of_contains {name : String} {c : AnnotatedClass}
    (present : (sets.get name).contains c.place = true) (other : String) :
    (sets.insert name c).get other = sets.get other := by
  rw [ClassSets.insert, ClassSet.add_of_contains present]
  by_cases same : other = name
  · rw [same, get_put_self]
  · exact get_put_of_ne sets _ same

theorem run_agrees (changes : List SetChange) : (run changes).Agrees (offered changes) := by
  induction changes using List.reverseRecOn with
  | nil => exact fun _ => rfl
  | append_singleton changes change ih =>
      rw [run, offered, List.foldl_append, List.foldl_append]
      exact ih.apply change

theorem offered_append_of_ne_target (changes : List SetChange) {later : List SetChange}
    {name : String} (others : ∀ change ∈ later, change.target ≠ name) :
    offered (changes ++ later) name = offered changes name := by
  induction later using List.reverseRecOn with
  | nil => rw [List.append_nil]
  | append_singleton later change ih =>
      have last : change.target ≠ name := others change (by simp)
      have before := ih fun earlier mem => others earlier (List.mem_append_left _ mem)
      rw [← before, ← List.append_assoc, offered, List.foldl_append]
      exact Offers.next_of_ne_target _ last.symm

/-- After any run each set reflects its account, and what a change replies depends on the accounts
alone. A class that is not taken leaves every set as it was, the class held for its declaration
included, and so does a run with the sets it does not name as its targets: a selection and the set
it was made from go separate ways. -/
theorem run_reflects_offers (changes : List SetChange) :
    (∀ name, ((run changes).get name).Reflects (offered changes name)) ∧
      (∀ change, ((run changes).apply change).2 = (offered changes).reply change) ∧
      (∀ name c, ((run changes).apply (.insert name (.wrapped c))).2 = .inserted false →
        ∀ other, ((run changes).apply (.insert name (.wrapped c))).1.get other =
          (run changes).get other) ∧
      ∀ later name, (∀ change ∈ later, change.target ≠ name) →
        (run (changes ++ later)).get name = (run changes).get name := by
  have agrees := run_agrees changes
  refine ⟨fun name => ?_, agrees.reply, fun name c refused => ?_, fun later name others => ?_⟩
  · rw [agrees name]
    exact ClassSet.reflects_ofList _
  · have present : (!((run changes).get name).contains c.place) = false :=
      SetReply.inserted.inj refused
    rw [Bool.not_eq_false'] at present
    exact get_insert_of_contains present
  · rw [run_agrees (changes ++ later) name, offered_append_of_ne_target changes others, agrees name]

theorem run_reflects_offers_visitAddsToItsOwnSet :
    let person : AnnotatedClass :=
      ⟨.type (.ofDecl 0 ⟨"com.example.Person", .plainClass, none, [], [], [], [], [], []⟩), false⟩
    let address : AnnotatedClass :=
      ⟨.type (.ofDecl 1 ⟨"com.example.Address", .plainClass, none, [], [], [], [], [], []⟩), true⟩
    let changes : List SetChange :=
      [.create "all" [.wrapped person], .select "all" "kept" fun _ => true]
    let visit : SetChange := .visit "all" "all" fun c =>
      [.wrapped address, .wrapped { c with internal := true }]
    ((run changes).apply visit).2 = .visited [person] ∧
      ((run (changes ++ [visit])).get "all").toList = [person, address] ∧
      (run (changes ++ [visit])).get "kept" = (run changes).get "kept" := by
  intro person address changes visit
  obtain ⟨_, replies, _, apart⟩ := run_reflects_offers changes
  refine ⟨replies visit, rfl, apart [visit] "kept" ?_⟩
  intro change mem
  rw [List.mem_singleton.mp mem]
  decide

end ClassSets
end ClassAtlas
