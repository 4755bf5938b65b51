import ClassAtlas.Host.Assignable
import Mathlib.Logic.Relation

/-!
Assignability is reachability. The search keeps two facts about the names it has seen: the anchor
is none of them, and every supertype of one of them is seen too or still pending. No shape of the
hierarchy is assumed, so names may be unknown, and supertypes may lead back or meet again.
-/
namespace ClassAtlas

theorem SourceType.rawName?_eq_some_iff {t : SourceType} {name : String} :
    t.rawName? = some name ↔
      (∃ as, t = .plain name as) ∨ ∃ arguments as, t = .parameterized name arguments as := by
  cases t <;> simp [rawName?, eq_comm]

namespace Host

/-- One step up: the raw name of a direct supertype of the declaration found under a name. -/
def DirectSupertype (h : Host) (name parent : String) : Prop :=
  ∃ t, h.typeNamed? name = some t ∧ ∃ s ∈ t.supertypes, s.rawName? = some parent

/-- Any number of steps up; a name that is not known leads to itself alone. -/
def Derives (h : Host) : String → String → Prop := Relation.ReflTransGen h.DirectSupertype

theorem mem_supertypeNames {h : Host} {name parent : String} :
    parent ∈ h.supertypeNames name ↔ h.DirectSupertype name parent := by
  rw [supertypeNames, DirectSupertype]
  split
  case h_1 t found => simp [found]
  case h_2 missing =>
      constructor
      · intro mem
        cases mem
      · rintro ⟨t, found, _⟩
        cases missing.symm.trans found

/-- What the search keeps true of the names it has seen while others are pending. -/
structure Explored (h : Host) (anchor : String) (seen pending : List String) : Prop where
  missed : anchor ∉ seen
  followed : ∀ name ∈ seen, ∀ parent, h.DirectSupertype name parent →
    parent ∈ seen ∨ parent ∈ pending

namespace Explored

variable {h : Host} {anchor name : String} {seen pending : List String}

theorem start (h : Host) (anchor : String) (pending : List String) :
    h.Explored anchor [] pending :=
  ⟨List.not_mem_nil, fun _ mem => absurd mem List.not_mem_nil⟩

/-- A name seen before is dropped. -/
theorem skip (e : h.Explored anchor seen (name :: pending)) (old : name ∈ seen) :
    h.Explored anchor seen pending := by
  refine ⟨e.missed, ?_⟩
  intro n mem parent up
  rcases e.followed n mem parent up with known | waiting
  · exact .inl known
  · rcases List.mem_cons.mp waiting with rfl | later
    · exact .inl old
    · exact .inr later

/-- A new name is exchanged for its supertypes. -/
theorem follow (e : h.Explored anchor seen (name :: pending)) (other : name ≠ anchor) :
    h.Explored anchor (name :: seen) ((h.supertypeNames name).reverse ++ pending) := by
  refine ⟨?_, ?_⟩
  · intro mem
    rcases List.mem_cons.mp mem with rfl | old
    · exact other rfl
    · exact e.missed old
  · intro n mem parent up
    rcases List.mem_cons.mp mem with rfl | old
    · refine .inr (List.mem_append_left _ ?_)
      rw [List.mem_reverse]
      exact mem_supertypeNames.mpr up
    · rcases e.followed n old parent up with known | waiting
      · exact .inl (List.mem_cons_of_mem _ known)
      · rcases List.mem_cons.mp waiting with rfl | later
        · exact .inl List.mem_cons_self
        · exact .inr (List.mem_append_right _ later)

/-- With nothing pending the seen names are closed upwards, so none of them leads to the anchor. -/
theorem not_derives (e : h.Explored anchor seen []) (old : name ∈ seen) :
    ¬ h.Derives name anchor := by
  intro way
  have closed : ∀ n, h.Derives name n → n ∈ seen := by
    intro n up
    induction up with
    | refl => exact old
    | tail _ step ih =>
        rcases e.followed _ ih _ step with known | waiting
        · exact known
        · exact absurd waiting List.not_mem_nil
  exact e.missed (closed anchor way)

end Explored

/-- What the search answers yes to is above a pending name. -/
theorem derives_of_reaches {h : Host} {anchor : String} {seen pending : List String}
    (found : h.reaches anchor seen pending = true) : ∃ name ∈ pending, h.Derives name anchor := by
  fun_induction reaches h anchor seen pending with
  | case1 => cases found
  | case2 seen pending => exact ⟨anchor, List.mem_cons_self, Relation.ReflTransGen.refl⟩
  | case3 seen name pending other old ih =>
      obtain ⟨n, mem, way⟩ := ih found
      exact ⟨n, List.mem_cons_of_mem _ mem, way⟩
  | case4 seen name pending other new ih =>
      obtain ⟨n, mem, way⟩ := ih found
      rcases List.mem_append.mp mem with parent | later
      · rw [List.mem_reverse] at parent
        exact ⟨name, List.mem_cons_self, .head (mem_supertypeNames.mp parent) way⟩
      · exact ⟨n, List.mem_cons_of_mem _ later, way⟩

/-- The search misses no anchor above a name that it has seen or has pending. -/
theorem reaches_of_derives {h : Host} {anchor name : String} {seen pending : List String}
    (e : h.Explored anchor seen pending) (here : name ∈ seen ∨ name ∈ pending)
    (way : h.Derives name anchor) : h.reaches anchor seen pending = true := by
  fun_induction reaches h anchor seen pending with
  | case1 seen =>
      rcases here with old | waiting
      · exact absurd way (e.not_derives old)
      · exact absurd waiting List.not_mem_nil
  | case2 => rfl
  | case3 seen current pending other old ih =>
      refine ih (e.skip old) ?_
      rcases here with known | waiting
      · exact .inl known
      · rcases List.mem_cons.mp waiting with rfl | later
        · exact .inl old
        · exact .inr later
  | case4 seen current pending other new ih =>
      refine ih (e.follow other) ?_
      rcases here with known | waiting
      · exact .inl (List.mem_cons_of_mem _ known)
      · rcases List.mem_cons.mp waiting with rfl | later
        · exact .inl List.mem_cons_self
        · exact .inr (List.mem_append_right _ later)

theorem reaches_singleton_iff {h : Host} {anchor name : String} :
    h.reaches anchor [] [name] = true ↔ h.Derives name anchor := by
  constructor
  · intro found
    obtain ⟨n, mem, way⟩ := derives_of_reaches found
    rw [List.mem_singleton] at mem
    exact mem ▸ way
  · exact reaches_of_derives (Explored.start h anchor [name]) (.inr List.mem_cons_self)

/-- A type is assignable to the anchor exactly when it is a declared type whose raw name leads up
to it. -/
theorem isAssignable_iff_derives (h : Host) (t : SourceType) (anchor : String) :
    h.isAssignable t anchor = true ↔
      ∃ name, ((∃ as, t = .plain name as) ∨ ∃ arguments as, t = .parameterized name arguments as) ∧
        h.Derives name anchor := by
  simp only [isAssignable, Option.any_eq_true, reaches_singleton_iff,
    SourceType.rawName?_eq_some_iff]

end Host
end ClassAtlas
