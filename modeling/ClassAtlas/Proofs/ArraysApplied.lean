import ClassAtlas.Proofs.TranslationShape

/-!
Arrays as applications of the class of arrays. An array and the same class applied to its component
stand for the same target, provided that the table leaves the name of that class alone and that no
marker is on a declaration of that name. Only what is noted on the way differs.
-/
namespace ClassAtlas

namespace SourceType

mutual

/-- A type in which the class of arrays, applied to the component, stands for every array. -/
def withoutArrays : SourceType → SourceType
  | .plain name as => .plain name as
  | .parameterized name arguments as => .parameterized name (allWithoutArrays arguments) as
  | .wildcard variance none as => .wildcard variance none as
  | .wildcard variance (some bound) as => .wildcard variance (some (withoutArrays bound)) as
  | .array component as => .parameterized Renaming.targetArray [withoutArrays component] as

def allWithoutArrays : List SourceType → List SourceType
  | [] => []
  | t :: rest => withoutArrays t :: allWithoutArrays rest

end

def isArray : SourceType → Bool
  | .array .. => true
  | .plain .. | .parameterized .. | .wildcard .. => false

theorem isArray_withoutArrays (t : SourceType) : t.withoutArrays.isArray = false := by
  cases t with
  | plain | parameterized | array => rfl
  | wildcard variance bound as => cases bound <;> rfl

mutual

/-- Every occurrence is replaced where it stands. -/
theorem occurrences_withoutArrays :
    (t : SourceType) → t.withoutArrays.occurrences = t.occurrences.map withoutArrays
  | .plain name as => rfl
  | .parameterized name arguments as => by
      rw [withoutArrays, occurrences, occurrences, occurrencesOfAll_withoutArrays arguments,
        List.map_append]
      rfl
  | .wildcard variance none as => rfl
  | .wildcard variance (some bound) as => by
      rw [withoutArrays, occurrences, occurrences, occurrences_withoutArrays bound, List.map_append]
      rfl
  | .array component as => by
      rw [withoutArrays, occurrences, occurrencesOfAll, occurrencesOfAll, occurrences,
        occurrences_withoutArrays component, List.append_nil, List.map_append]
      rfl

theorem occurrencesOfAll_withoutArrays : (ts : List SourceType) →
    occurrencesOfAll (allWithoutArrays ts) = (occurrencesOfAll ts).map withoutArrays
  | [] => rfl
  | t :: rest => by
      rw [allWithoutArrays, occurrencesOfAll, occurrencesOfAll, occurrences_withoutArrays t,
        occurrencesOfAll_withoutArrays rest, List.map_append]

end

end SourceType

namespace Translator

open SourceType (withoutArrays allWithoutArrays)

/-- A translator for which the class of arrays is an ordinary name: the table leaves it alone, and
what is declared under it bears no marker. -/
structure KeepsArrays (tr : Translator) : Prop where
  named : tr.table.rename Renaming.targetArray = Renaming.targetArray
  unmarked : ∀ d, tr.host.typeNamed? Renaming.targetArray = some d →
    tr.hasMarker d.annotations = false

variable {tr : Translator}

/-- An array resolves to no declaration, and the class of arrays to none that is marked. -/
theorem isNullable_withoutArrays (keeps : tr.KeepsArrays) (t : SourceType) :
    tr.isNullable t.withoutArrays = tr.isNullable t := by
  cases t with
  | plain | parameterized => rfl
  | wildcard variance bound as => cases bound <;> rfl
  | array component as =>
      have none : (tr.host.typeNamed? Renaming.targetArray).any
          (fun d => tr.hasMarker d.annotations) = false := by
        cases known : tr.host.typeNamed? Renaming.targetArray with
        | none => rfl
        | some d => exact keeps.unmarked d known
      exact congrArg (tr.hasMarker as || ·) none

/-- The component of an array is translated as the only argument. -/
theorem translate_array (tr : Translator) (component : SourceType) (as : List AnnotationUse) :
    tr.translate (.array component as) =
      tr.translateAll [component] >>= fun targets =>
        tr.finished (.array component as) (applied Renaming.targetArray targets) := by
  rw [translate]
  cases result : (tr.translate component).outcome with
  | error e =>
      rw [Traced.bind_of_error result, translateAll, Traced.bind_of_error result]
      rfl
  | ok target =>
      have all : tr.translateAll [component] = ⟨(tr.translate component).events, .ok [target]⟩ := by
        rw [translateAll, Traced.bind_of_ok result]
        exact congrArg (Traced.mk · (.ok [target])) (List.append_nil _)
      rw [Traced.bind_of_ok result, all]
      rfl

theorem outcome_finished_withoutArrays (keeps : tr.KeepsArrays) (t : SourceType)
    (target : TargetType) :
    (tr.finished t.withoutArrays target).outcome = (tr.finished t target).outcome := by
  rw [finished_eq, finished_eq, marked, isNullable_withoutArrays keeps, marked]

mutual

theorem outcome_translate_withoutArrays (keeps : tr.KeepsArrays) :
    (t : SourceType) → (tr.translate t.withoutArrays).outcome = (tr.translate t).outcome
  | .plain name as => rfl
  | .parameterized name arguments as => by
      rw [withoutArrays, translate, translate]
      refine Traced.outcome_bind_congr (outcome_translateAll_withoutArrays keeps arguments) ?_
      exact fun targets => outcome_finished_withoutArrays keeps (.parameterized name arguments as) _
  | .array component as => by
      have single : (tr.translateAll [component.withoutArrays]).outcome =
          (tr.translateAll [component]).outcome := by
        rw [translateAll, translateAll]
        exact Traced.outcome_bind_congr (outcome_translate_withoutArrays keeps component)
          fun _ => rfl
      rw [withoutArrays, translate, translate_array, keeps.named]
      refine Traced.outcome_bind_congr single fun targets => ?_
      exact outcome_finished_withoutArrays keeps (.array component as) _
  | .wildcard variance none as => rfl
  | .wildcard variance (some bound) as => by
      rw [withoutArrays, translate, translate]
      exact Traced.outcome_bind_congr (outcome_translate_withoutArrays keeps bound) fun _ => rfl

theorem outcome_translateAll_withoutArrays (keeps : tr.KeepsArrays) :
    (ts : List SourceType) →
      (tr.translateAll (allWithoutArrays ts)).outcome = (tr.translateAll ts).outcome
  | [] => rfl
  | t :: rest => by
      rw [allWithoutArrays, translateAll, translateAll]
      refine Traced.outcome_bind_congr (outcome_translate_withoutArrays keeps t) fun target => ?_
      exact Traced.outcome_bind_congr (outcome_translateAll_withoutArrays keeps rest) fun _ => rfl

end

/-- To replace every array of a type, at every depth, by the class of arrays applied to its
component leaves no array, and leaves the target or the failure of the type as it is. -/
theorem target_withoutArrays (tr : Translator) (keeps : tr.KeepsArrays) (t : SourceType) :
    (∀ o ∈ t.withoutArrays.occurrences, o.isArray = false) ∧
      tr.target t.withoutArrays = tr.target t := by
  refine ⟨fun o mem => ?_, outcome_translate_withoutArrays keeps t⟩
  rw [SourceType.occurrences_withoutArrays] at mem
  obtain ⟨o, _, rfl⟩ := List.mem_map.mp mem
  exact o.isArray_withoutArrays

/-- Arrays in a bound and in one another where a class of their name is declared, under an
annotation that is no marker: the inner one is a byte array either way, and so is the nullable
one. -/
theorem target_withoutArrays_declaredArray :
    let declared : ClassDecl :=
      ⟨Renaming.targetArray, .plainClass, none, [], [⟨"a.Known", []⟩], [], [], [], []⟩
    let tr : Translator := ⟨.ofDeclarations ⟨[declared]⟩ false, .standard, ["a.Null"]⟩
    let bytes : SourceType := .array (.bare "byte") [⟨"a.Null", []⟩]
    let t : SourceType := .wildcard .producer (some (.array bytes [])) []
    let target : TargetType := .projection .producer
      (.named "kotlin.Array" [.named "kotlin.ByteArray" [] true] true)
    tr.KeepsArrays ∧ (tr.host.typeNamed? Renaming.targetArray).isSome = true ∧
      t.withoutArrays = .wildcard .producer (some (.parameterized "kotlin.Array"
        [.parameterized "kotlin.Array" [.bare "byte"] [⟨"a.Null", []⟩]] [])) [] ∧
      tr.target t = .ok target ∧ tr.target t.withoutArrays = .ok target := by
  intro declared tr bytes t target
  have keeps : tr.KeepsArrays := by
    refine ⟨by decide, fun d known => ?_⟩
    cases known
    rfl
  have done : tr.target t = .ok target := rfl
  exact ⟨keeps, rfl, rfl, done, (target_withoutArrays tr keeps t).2.trans done⟩

end Translator
end ClassAtlas
