import ClassAtlas.Host.Basic
import ClassAtlas.Proofs.TypeDepth
import ClassAtlas.Proofs.ValidDeclarations

/-!
The types of a checked document nest no deeper than a check goes. Each level of a type is checked
within one more part, and no part is checked within as many others as the limit.
-/
namespace ClassAtlas

open Check

namespace SourceType

theorem argumentsDepth_le {ts : List SourceType} {levels : Nat}
    (each : ∀ t ∈ ts, t.depth ≤ levels) : argumentsDepth ts ≤ levels := by
  induction ts with
  | nil => exact Nat.zero_le levels
  | cons t rest ih =>
      rw [argumentsDepth]
      exact Nat.max_le.mpr ⟨each t List.mem_cons_self,
        ih fun u mem => each u (List.mem_cons_of_mem t mem)⟩

theorem Valid.depth_le {n : Nat} {t : SourceType} (valid : t.Valid n) :
    t.depth ≤ Nest.limit - n := by
  induction valid with
  | plain within _ | unbounded within _ =>
      rw [depth]
      omega
  | parameterized within _ _ ih =>
      have inner := argumentsDepth_le ih
      rw [depth]
      omega
  | wildcard within _ _ ih | array within _ _ ih =>
      rw [depth]
      omega

end SourceType

theorem Declarations.depth_le_of_check {v : Value} {d : Declarations} (passed : check v = .pass d) :
    ∀ c ∈ d.classes, ∀ f ∈ c.fields, f.type.depth ≤ Nest.limit := by
  intro c listed f declared
  have valid := (valid_of_check passed c listed).fields f declared
  exact valid.type.depth_le

/-- The fields of a class are those of its declaration. -/
theorem TypeDeclaration.exists_of_mem_members_ofDecl {index : Nat} {d : ClassDecl} {m : Member}
    (mem : m ∈ (ofDecl index d).members) (field : m.kind = .field) :
    ∃ f ∈ d.fields, m.type = f.type := by
  obtain ⟨i, place, rfl⟩ := List.mem_mapIdx.mp mem
  have given := List.getElem_mem place
  rcases List.mem_append.mp given with given | given
  · rcases List.mem_append.mp given with given | given
    · obtain ⟨f, declared, same⟩ := List.mem_map.mp given
      refine ⟨f, declared, ?_⟩
      rw [← same]
      rfl
    · obtain ⟨f, _, same⟩ := List.mem_map.mp given
      rw [← same] at field
      cases field
  · obtain ⟨f, _, same⟩ := List.mem_map.mp given
    rw [← same] at field
    cases field

theorem Host.depth_le_of_mem_properties {v : Value} {d : Declarations} (withStandard : Bool)
    (passed : Declarations.check v = .pass d) {t : TypeDeclaration}
    (listed : t ∈ (ofDeclarations d withStandard).classes) (unsupported : List Modifier) :
    ∀ p ∈ (Element.type t).properties unsupported, p.source.depth ≤ Nest.limit := by
  intro p mem
  obtain ⟨m, kept, rfl⟩ := List.mem_map.mp mem
  obtain ⟨member, supported⟩ := List.mem_filter.mp kept
  rw [Bool.and_eq_true, beq_iff_eq] at supported
  obtain ⟨i, place, rfl⟩ := List.mem_mapIdx.mp listed
  obtain ⟨f, declared, same⟩ := TypeDeclaration.exists_of_mem_members_ofDecl member supported.1
  have shallow := Declarations.depth_le_of_check passed _ (List.getElem_mem place) f declared
  rw [← same] at shallow
  exact shallow

end ClassAtlas
