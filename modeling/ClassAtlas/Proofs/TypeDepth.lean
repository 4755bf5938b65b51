import ClassAtlas.Property

/-!
How deep types nest. A translated type nests no deeper than its source.
-/
namespace ClassAtlas

namespace SourceType

mutual

/-- The levels of a type, its own among them. -/
def depth : SourceType → Nat
  | .plain .. | .wildcard _ none _ => 1
  | .parameterized _ arguments _ => argumentsDepth arguments + 1
  | .wildcard _ (some bound) _ => depth bound + 1
  | .array component _ => depth component + 1

def argumentsDepth : List SourceType → Nat
  | [] => 0
  | t :: rest => max (depth t) (argumentsDepth rest)

end
end SourceType

namespace TargetType

mutual

def depth : TargetType → Nat
  | .named _ arguments _ => argumentsDepth arguments + 1
  | .projection _ bound => depth bound + 1

def argumentsDepth : List TargetType → Nat
  | [] => 0
  | t :: rest => max (depth t) (argumentsDepth rest)

end

theorem argumentsDepth_le_iff {ts : List TargetType} {levels : Nat} :
    argumentsDepth ts ≤ levels ↔ ∀ t ∈ ts, t.depth ≤ levels := by
  induction ts with
  | nil => simp [argumentsDepth]
  | cons t rest ih => rw [argumentsDepth, Nat.max_le, ih, List.forall_mem_cons]

theorem depth_withNullable (nullable : Bool) (t : TargetType) :
    (t.withNullable nullable).depth = t.depth := by
  cases t <;> rfl

end TargetType

namespace Translator

variable {tr : Translator}

theorem depth_applied_le (name : String) (arguments : List TargetType) :
    (applied name arguments).depth ≤ TargetType.argumentsDepth arguments + 1 := by
  simp only [applied]
  split
  · split
    · simp [TargetType.bare, TargetType.depth, TargetType.argumentsDepth]
    · exact Nat.le_refl _
  · exact Nat.le_refl _

theorem depth_marked (t : SourceType) (target : TargetType) :
    (tr.marked t target).depth = target.depth := by
  rw [marked]
  split
  · exact TargetType.depth_withNullable true target
  · rfl

theorem depth_boundOf (variance : Variance) (bound : TargetType) :
    (boundOf variance bound).depth = bound.depth := by
  cases variance with
  | producer => exact TargetType.depth_withNullable true bound
  | consumer => rfl

mutual

theorem depth_le_of_translate : {t : SourceType} → {target : TargetType} →
    (tr.translate t).outcome = .ok target → target.depth ≤ t.depth
  | .plain name as, _, done => by
      cases done
      rw [depth_marked]
      exact Nat.le_refl _
  | .parameterized name arguments as, _, done => by
      obtain ⟨targets, each, last⟩ := Traced.outcome_bind_eq_ok.mp done
      cases last
      have inner := argumentsDepth_le_of_translateAll each
      have outer := depth_applied_le (tr.table.rename name) targets
      rw [depth_marked, SourceType.depth]
      omega
  | .array component as, _, done => by
      obtain ⟨target, each, last⟩ := Traced.outcome_bind_eq_ok.mp done
      cases last
      have inner := depth_le_of_translate each
      have outer := depth_applied_le Renaming.targetArray [target]
      rw [TargetType.argumentsDepth, TargetType.argumentsDepth] at outer
      rw [depth_marked, SourceType.depth]
      omega
  | .wildcard variance none as, _, done => by cases done
  | .wildcard variance (some bound) as, _, done => by
      obtain ⟨target, each, last⟩ := Traced.outcome_bind_eq_ok.mp done
      have inner := depth_le_of_translate each
      obtain ⟨_, rfl⟩ := outcome_projected_eq_ok_iff.mp last
      rw [TargetType.depth, depth_boundOf, SourceType.depth]
      omega

theorem argumentsDepth_le_of_translateAll : {ts : List SourceType} → {targets : List TargetType} →
    (tr.translateAll ts).outcome = .ok targets →
      TargetType.argumentsDepth targets ≤ SourceType.argumentsDepth ts
  | [], _, done => by
      cases done
      exact Nat.le_refl _
  | t :: rest, _, done => by
      obtain ⟨target, first, more⟩ := Traced.outcome_bind_eq_ok.mp done
      obtain ⟨targets, others, last⟩ := Traced.outcome_bind_eq_ok.mp more
      cases last
      have head := depth_le_of_translate first
      have tail := argumentsDepth_le_of_translateAll others
      rw [TargetType.argumentsDepth, SourceType.argumentsDepth]
      omega

end
end Translator

/-- A nullability mark of its own does not deepen the type of a property. -/
theorem Property.depth_le_of_type {tr : Translator} {p : Property} {target : TargetType}
    (done : (p.type tr).outcome = .ok target) : target.depth ≤ p.source.depth := by
  obtain ⟨translated, first, last⟩ := Traced.outcome_bind_eq_ok.mp done
  have le := Translator.depth_le_of_translate first
  cases last
  split
  · rw [TargetType.depth_withNullable]
    exact le
  · exact le

end ClassAtlas
