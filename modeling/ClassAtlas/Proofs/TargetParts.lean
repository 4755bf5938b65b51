import ClassAtlas.Property
import ClassAtlas.Proofs.SourceNaming
import ClassAtlas.Proofs.TranslationShape

/-!
What holds at every depth of a translated type. A projection has a class for its bound, which admits
null where the projection produces, and an array of plain bytes is always a byte array. The steps
that change a finished type set its null mark alone, and none of this looks at the mark of the type
itself.
-/
namespace ClassAtlas

namespace TargetType

/-- A part of the form that translations have: no array of bytes that could be a byte array, no
projection of a projection, and no producer of what admits no null. -/
def IsProper : TargetType → Prop
  | .named name arguments _ =>
      ¬ (name = Renaming.targetArray ∧
        ∃ inner, arguments = [.named Renaming.targetByte inner false])
  | .projection variance bound =>
      (∃ name arguments nullable, bound = .named name arguments nullable) ∧
        (variance = .producer → bound.isNullable = true)

/-- A type that is proper at every path into it. -/
def Proper (t : TargetType) : Prop := ∀ path part, t.part? path = some part → part.IsProper

/-- A type is proper throughout when it is proper itself and its parts are so throughout. -/
theorem proper_iff {t : TargetType} : t.Proper ↔ t.IsProper ∧ ∀ u ∈ t.parts, u.Proper := by
  constructor
  · intro all
    refine ⟨all [] t rfl, fun u mem path part inside => ?_⟩
    obtain ⟨i, here⟩ := List.getElem?_of_mem mem
    refine all (i :: path) part ?_
    rw [part?, here, Option.bind_some, inside]
  · rintro ⟨here, each⟩ path part inside
    cases path with
    | nil => exact Option.some.inj inside ▸ here
    | cons i path =>
        obtain ⟨u, listed, inside⟩ := Option.bind_eq_some_iff.mp inside
        exact each u (List.mem_of_getElem? listed) path part inside

/-- Setting the null mark of a type keeps its parts proper. -/
theorem Proper.withNullable {t : TargetType} (nullable : Bool) (proper : t.Proper) :
    (t.withNullable nullable).Proper := by
  cases t with
  | named name arguments own =>
      obtain ⟨here, each⟩ := proper_iff.mp proper
      exact proper_iff.mpr ⟨here, each⟩
  | projection variance bound => exact proper

theorem exists_named_of_not_isProjection {t : TargetType} (isClass : t.isProjection = false) :
    ∃ name arguments nullable, t = .named name arguments nullable := by
  cases t with
  | named name arguments nullable => exact ⟨name, arguments, nullable, rfl⟩
  | projection variance bound => cases isClass

end TargetType

namespace Translator

open TargetType (Proper proper_iff)

variable {tr : Translator}

/-- An array of plain bytes is replaced where it would come about. -/
theorem proper_applied (name : String) {targets : List TargetType}
    (each : ∀ t ∈ targets, t.Proper) : (applied name targets).Proper := by
  by_cases bytes : IsArrayOf (isPlainByte · = true) name targets
  · rw [applied_of_isArrayOf bytes]
    refine proper_iff.mpr ⟨?_, nofun⟩
    rintro ⟨_, inner, none⟩
    cases none
  · rw [applied_of_not_isArrayOf bytes]
    refine proper_iff.mpr ⟨?_, each⟩
    rintro ⟨array, inner, rfl⟩
    exact bytes ⟨array, _, rfl, isPlainByte_iff.mpr ⟨inner, rfl⟩⟩

theorem proper_marked (t : SourceType) {target : TargetType} (proper : target.Proper) :
    (tr.marked t target).Proper := by
  rw [marked]
  split
  · exact proper.withNullable true
  · exact proper

/-- The bound of a producer gets its null mark when it is wrapped. -/
theorem proper_boundOf (variance : Variance) {bound : TargetType} (proper : bound.Proper)
    (isClass : bound.isProjection = false) :
    Proper (.projection variance (boundOf variance bound)) := by
  obtain ⟨name, arguments, nullable, rfl⟩ := TargetType.exists_named_of_not_isProjection isClass
  refine proper_iff.mpr ⟨?_, List.forall_mem_singleton.mpr ?_⟩
  · cases variance with
    | producer => exact ⟨⟨name, arguments, true, rfl⟩, fun _ => rfl⟩
    | consumer => exact ⟨⟨name, arguments, nullable, rfl⟩, nofun⟩
  · cases variance with
    | producer => exact proper.withNullable true
    | consumer => exact proper

mutual

/-- The induction is on the source, with its arguments as a list of their own. -/
theorem proper_of_translate : {t : SourceType} → {target : TargetType} →
    (tr.translate t).outcome = .ok target → target.Proper
  | .plain name as, _, done => by
      obtain ⟨targets, all, rfl⟩ := exists_targets_of_application? rfl done
      cases all
      exact proper_marked _ (proper_applied _ nofun)
  | .parameterized name arguments as, _, done => by
      obtain ⟨targets, all, rfl⟩ := exists_targets_of_application? rfl done
      exact proper_marked _ (proper_applied _ (proper_of_translateAll all))
  | .array component as, _, done => by
      obtain ⟨targets, all, rfl⟩ := exists_targets_of_application? rfl done
      obtain ⟨inner, own, rfl⟩ := translateAll_singleton_iff.mp all
      refine proper_marked _ (proper_applied _ ?_)
      exact List.forall_mem_singleton.mpr (proper_of_translate own)
  | .wildcard variance none as, _, done => by cases done
  | .wildcard variance (some bound) as, _, done => by
      obtain ⟨target, own, last⟩ := Traced.outcome_bind_eq_ok.mp done
      obtain ⟨isClass, rfl⟩ := outcome_projected_eq_ok_iff.mp last
      exact proper_boundOf variance (proper_of_translate own) isClass

theorem proper_of_translateAll : {ts : List SourceType} → {targets : List TargetType} →
    (tr.translateAll ts).outcome = .ok targets → ∀ target ∈ targets, target.Proper
  | [], _, done => by
      cases done
      nofun
  | t :: rest, _, done => by
      obtain ⟨target, own, more⟩ := Traced.outcome_bind_eq_ok.mp done
      obtain ⟨targets, others, last⟩ := Traced.outcome_bind_eq_ok.mp more
      cases last
      exact List.forall_mem_cons.mpr ⟨proper_of_translate own, proper_of_translateAll others⟩

end

/-- What a type translates to is proper at every depth, whatever the table and the markers: bounds
of projections are classes, bounds of producers admit null, and no array is one of plain bytes. It
is a projection exactly when the type is a wildcard. -/
theorem proper_target (tr : Translator) (t : SourceType) (target : TargetType)
    (done : tr.target t = .ok target) :
    (∀ path part, target.part? path = some part → part.IsProper) ∧
      target.isProjection = t.isWildcard :=
  ⟨proper_of_translate done, isProjection_of_translate done⟩

/-- Boxes are arrays and octets are bytes. The box of octets below a producer becomes a byte array
that admits null, and the box of octets that admit null stays an array. -/
theorem proper_target_boxesOfOctets :
    let tr := ofRenamed [("a.Box", Renaming.targetArray), ("a.Octet", Renaming.targetByte)]
    let box (octet : SourceType) : SourceType := .parameterized "a.Box" [octet] []
    let t : SourceType := .parameterized "a.Pair"
      [.wildcard .producer (some (box (.bare "a.Octet"))) [],
        box (.plain "a.Octet" [⟨standardMarker, []⟩])] []
    let target : TargetType := .named "a.Pair"
      [.projection .producer (.named Renaming.targetByteArray [] true),
        .named Renaming.targetArray [.named Renaming.targetByte [] true] false] false
    tr.target t = .ok target ∧ (∀ path part, target.part? path = some part → part.IsProper) ∧
      target.isProjection = false := by
  intro tr box t target
  have done : tr.target t = .ok target := rfl
  exact ⟨done, proper_target tr t target done⟩

end Translator

/-- The null mark that a property adds to its type keeps it proper. -/
theorem Property.proper_of_type {tr : Translator} {p : Property} {target : TargetType}
    (done : (p.type tr).outcome = .ok target) : target.Proper := by
  obtain ⟨own, translated, last⟩ := Traced.outcome_bind_eq_ok.mp done
  have proper := Translator.proper_of_translate translated
  cases last
  split
  · exact proper.withNullable true
  · exact proper

end ClassAtlas
