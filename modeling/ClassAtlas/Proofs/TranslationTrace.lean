import ClassAtlas.Translation.Basic
import Mathlib.Data.List.TakeWhile

/-!
The trace of a translation. A source type is gone through in post-order: arguments from left to
right, a component or a bound, and then the occurrence itself. Each occurrence is noted with its
own result, up to the first one that has no translation, whose fault is the outcome.
-/
namespace ClassAtlas

namespace SourceType

mutual

/-- The occurrences of a type in post-order, the type itself last. -/
def occurrences : SourceType → List SourceType
  | .plain name as => [.plain name as]
  | .parameterized name arguments as =>
      occurrencesOfAll arguments ++ [.parameterized name arguments as]
  | .wildcard variance none as => [.wildcard variance none as]
  | .wildcard variance (some bound) as =>
      occurrences bound ++ [.wildcard variance (some bound) as]
  | .array component as => occurrences component ++ [.array component as]

def occurrencesOfAll : List SourceType → List SourceType
  | [] => []
  | t :: rest => occurrences t ++ occurrencesOfAll rest

end

/-- What is wrong with an occurrence itself: a wildcard lacks its bound or has one for a bound. -/
def fault? : SourceType → Option StructureError
  | .wildcard variance none _ => some (.unbounded variance)
  | .wildcard _ (some (.wildcard ..)) _ => some .nestedWildcard
  | _ => none

def isWildcard : SourceType → Bool
  | .wildcard .. => true
  | .plain .. | .parameterized .. | .array .. => false

theorem fault?_bounded (variance : Variance) (bound : SourceType) (as : List AnnotationUse) :
    (SourceType.wildcard variance (some bound) as).fault? =
      if bound.isWildcard then some .nestedWildcard else none := by
  cases bound <;> rfl

end SourceType

theorem TargetType.isProjection_withNullable (nullable : Bool) (t : TargetType) :
    (t.withNullable nullable).isProjection = t.isProjection := by
  cases t <;> rfl

namespace Translator

/-- What is noted of an occurrence: its own translation, or for a wildcard that of its bound. -/
def notice? (tr : Translator) : SourceType → Option TranslationEvent
  | .wildcard variance (some bound) _ =>
      (tr.target bound).toOption.map (.projected variance)
  | .wildcard _ none _ => none
  | t => (tr.target t).toOption.map (.translated t)

/-- A computation goes through a list of occurrences: it notes all of them and succeeds, or it
notes those before the first faulty one and fails with the fault of that one. -/
inductive Visits {α : Type} (tr : Translator) (os : List SourceType) (x : Traced α) : Prop where
  | all {a : α} (sound : ∀ o ∈ os, o.fault? = none)
      (noted : x.events.map some = os.map tr.notice?) (result : x.outcome = .ok a)
  | upTo {before after : List SourceType} {o : SourceType} {e : StructureError}
      (split : os = before ++ o :: after) (sound : ∀ b ∈ before, b.fault? = none)
      (fault : o.fault? = some e) (noted : x.events.map some = before.map tr.notice?)
      (result : x.outcome = .error e)

namespace Visits

variable {α β : Type} {tr : Translator} {os ps : List SourceType}

theorem pure (tr : Translator) (a : α) : tr.Visits [] (Pure.pure a : Traced α) :=
  .all (by simp) rfl rfl

/-- What comes next is asked for only where the first part succeeds. -/
theorem bind {x : Traced α} {f : α → Traced β} (first : tr.Visits os x)
    (next : ∀ a, x.outcome = .ok a → tr.Visits ps (f a)) : tr.Visits (os ++ ps) (x >>= f) := by
  cases first with
  | @all a sound noted result =>
      rw [Traced.bind_of_ok result]
      cases next a result with
      | all sound' noted' result' =>
          refine .all ?_ ?_ result'
          · intro o mem
            exact (List.mem_append.mp mem).elim (sound o) (sound' o)
          · rw [List.map_append, noted, noted', List.map_append]
      | @upTo before after o e split sound' fault noted' result' =>
          have split' : os ++ ps = (os ++ before) ++ o :: after := by rw [split, List.append_assoc]
          refine .upTo split' ?_ fault ?_ result'
          · intro o mem
            exact (List.mem_append.mp mem).elim (sound o) (sound' o)
          · rw [List.map_append, noted, noted', List.map_append]
  | @upTo before after o e split sound fault noted result =>
      rw [Traced.bind_of_error result]
      have split' : os ++ ps = before ++ o :: (after ++ ps) := by
        rw [split, List.append_assoc, List.cons_append]
      exact .upTo split' sound fault noted rfl

theorem outcome_ok_iff {x : Traced α} (v : tr.Visits os x) :
    (∃ a, x.outcome = .ok a) ↔ ∀ o ∈ os, o.fault? = none := by
  cases v with
  | all sound noted result => exact ⟨fun _ => sound, fun _ => ⟨_, result⟩⟩
  | @upTo before after o e split sound fault noted result =>
      constructor
      · rintro ⟨a, done⟩
        cases result.symm.trans done
      · intro sound'
        have absent := sound' o (by rw [split]; simp)
        cases fault.symm.trans absent

theorem outcome_error_iff {x : Traced α} (v : tr.Visits os x) (e : StructureError) :
    x.outcome = .error e ↔ os.findSome? SourceType.fault? = some e := by
  cases v with
  | all sound noted result =>
      rw [List.findSome?_eq_none_iff.mpr sound, result]
      simp
  | @upTo before after o e' split sound fault noted result =>
      have first : os.findSome? SourceType.fault? = some e' := by
        rw [split, List.findSome?_append, List.findSome?_eq_none_iff.mpr sound]
        simp [fault]
      rw [first, result]
      simp

theorem events_eq {x : Traced α} (v : tr.Visits os x) :
    x.events.map some = (os.takeWhile fun o => o.fault?.isNone).map tr.notice? := by
  cases v with
  | all sound noted result =>
      rw [noted, List.takeWhile_eq_self_iff.mpr]
      intro o mem
      simp [sound o mem]
  | @upTo before after o e split sound fault noted result =>
      have upTo : os.takeWhile (fun o => o.fault?.isNone) = before := by
        rw [split, List.takeWhile_append_of_pos]
        · simp [fault]
        · intro b mem
          simp [sound b mem]
      rw [noted, upTo]

end Visits

theorem isProjection_applied (name : String) (arguments : List TargetType) :
    (applied name arguments).isProjection = false := by
  simp only [applied]
  split
  · split <;> rfl
  · rfl

theorem isProjection_marked (tr : Translator) (t : SourceType) (target : TargetType) :
    (tr.marked t target).isProjection = target.isProjection := by
  rw [marked]
  split
  · exact TargetType.isProjection_withNullable true target
  · rfl

/-- What becomes of a wildcard is a projection, and of nothing else. -/
theorem isProjection_of_translate {tr : Translator} {t : SourceType} {target : TargetType}
    (done : (tr.translate t).outcome = .ok target) : target.isProjection = t.isWildcard := by
  cases t with
  | plain name as =>
      cases done
      exact isProjection_marked ..
  | parameterized name arguments as =>
      obtain ⟨targets, _, last⟩ := Traced.outcome_bind_eq_ok.mp done
      cases last
      rw [isProjection_marked, isProjection_applied]
      rfl
  | array component as =>
      obtain ⟨inner, _, last⟩ := Traced.outcome_bind_eq_ok.mp done
      cases last
      rw [isProjection_marked, isProjection_applied]
      rfl
  | wildcard variance bound as =>
      cases bound with
      | none => cases done
      | some bound =>
          obtain ⟨inner, _, last⟩ := Traced.outcome_bind_eq_ok.mp done
          obtain ⟨_, rfl⟩ := outcome_projected_eq_ok_iff.mp last
          rfl

namespace Visits

/-- A fault of the first occurrence leaves nothing noted. -/
theorem fail {α : Type} (tr : Translator) {o : SourceType} {e : StructureError}
    (fault : o.fault? = some e) : tr.Visits [o] (Traced.fail e : Traced α) :=
  .upTo (List.nil_append [o]).symm (by simp) fault rfl rfl

/-- An occurrence that is finished adds the one note of itself. -/
theorem finished {tr : Translator} {t : SourceType} {target : TargetType}
    (sound : t.fault? = none)
    (own : tr.notice? t = some (.translated t (tr.marked t target))) :
    tr.Visits [t] (tr.finished t target) := by
  rw [finished_eq]
  exact .all (by simpa using sound) (by simp [own]) rfl

/-- A wildcard with a translated bound adds its note unless that bound is a wildcard. -/
theorem projected {tr : Translator} {variance : Variance} {bound : SourceType}
    {as : List AnnotationUse} {target : TargetType}
    (done : (tr.translate bound).outcome = .ok target) :
    tr.Visits [.wildcard variance (some bound) as] (projected variance target) := by
  have shape := isProjection_of_translate done
  cases nested : bound.isWildcard with
  | true =>
      rw [projected_of_isProjection variance (shape.trans nested)]
      refine .fail tr ?_
      rw [SourceType.fault?_bounded, nested, if_pos rfl]
  | false =>
      rw [projected_of_not_isProjection variance (shape.trans nested)]
      have inner : (tr.target bound).toOption = some target := congrArg Except.toOption done
      refine .all ?_ ?_ rfl
      · simp [SourceType.fault?_bounded, nested]
      · simp [notice?, inner]

end Visits

mutual

theorem visits_translate (tr : Translator) :
    (t : SourceType) → tr.Visits t.occurrences (tr.translate t)
  | .plain name as => by
      rw [translate, SourceType.occurrences]
      exact .finished rfl rfl
  | .parameterized name arguments as => by
      rw [translate, SourceType.occurrences]
      refine (visits_translateAll tr arguments).bind ?_
      intro targets done
      refine .finished rfl ?_
      simp [notice?, target, translate, Traced.bind_of_ok done, finished_eq, Except.toOption]
  | .array component as => by
      rw [translate, SourceType.occurrences]
      refine (visits_translate tr component).bind ?_
      intro inner done
      refine .finished rfl ?_
      simp [notice?, target, translate, Traced.bind_of_ok done, finished_eq, Except.toOption]
  | .wildcard variance none as => by
      rw [translate, SourceType.occurrences]
      exact .fail tr rfl
  | .wildcard variance (some bound) as => by
      rw [translate, SourceType.occurrences]
      exact (visits_translate tr bound).bind fun _ done => .projected done

theorem visits_translateAll (tr : Translator) :
    (ts : List SourceType) → tr.Visits (SourceType.occurrencesOfAll ts) (tr.translateAll ts)
  | [] => .pure tr []
  | t :: rest => by
      rw [translateAll, SourceType.occurrencesOfAll]
      refine (visits_translate tr t).bind ?_
      intro head _
      have tail := visits_translateAll tr rest
      rw [← List.append_nil (SourceType.occurrencesOfAll rest)]
      exact tail.bind fun targets _ => .pure tr (head :: targets)

end

/-- A type translates exactly when none of its occurrences is at fault; otherwise the outcome is
the fault of the first one in post-order. Noted are, in post-order and each once, the occurrences
before that one, and all of them where there is none. -/
theorem translate_trace (tr : Translator) (t : SourceType) :
    ((∃ target, (tr.translate t).outcome = .ok target) ↔ ∀ o ∈ t.occurrences, o.fault? = none) ∧
    (∀ e, (tr.translate t).outcome = .error e ↔
      t.occurrences.findSome? SourceType.fault? = some e) ∧
    (tr.translate t).events.map some =
      (t.occurrences.takeWhile fun o => o.fault?.isNone).map tr.notice? := by
  have visit := visits_translate tr t
  exact ⟨visit.outcome_ok_iff, visit.outcome_error_iff, visit.events_eq⟩

end Translator
end ClassAtlas
