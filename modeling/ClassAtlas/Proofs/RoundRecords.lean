import ClassAtlas.Artifact.Basic
import ClassAtlas.Proofs.FirstFailure

/-!
The records of a list of classes, up to the first class that has none. A class is written as the
text of its record.
-/
namespace ClassAtlas

namespace ClassRecord

/-- The records of classes in order, or the failure of the first class without one. -/
def ofClasses (ctx : Context) (classes : List AnnotatedClass) :
    Except StructureError (List ClassRecord) :=
  classes.mapM fun c => (ofClass ctx c).outcome

variable {ctx : Context} {c : AnnotatedClass} {rest : List AnnotatedClass} {e : StructureError}
  {records : List ClassRecord}

theorem ofClasses_eq_ok_iff {classes : List AnnotatedClass} : ofClasses ctx classes = .ok records ↔
    List.Forall₂ (fun c r => (ofClass ctx c).outcome = .ok r) classes records :=
  FirstFailure.mapM_eq_ok_iff

theorem ofClasses_cons_eq_ok_iff : ofClasses ctx (c :: rest) = .ok records ↔
    ∃ r rs, (ofClass ctx c).outcome = .ok r ∧ ofClasses ctx rest = .ok rs ∧ records = r :: rs := by
  simp only [ofClasses, FirstFailure.mapM_eq_ok_iff, List.forall₂_cons_left_iff, exists_and_left]

theorem ofClasses_cons_eq_error_iff : ofClasses ctx (c :: rest) = .error e ↔
    (ofClass ctx c).outcome = .error e ∨
      ∃ r, (ofClass ctx c).outcome = .ok r ∧ ofClasses ctx rest = .error e := by
  rw [ofClasses, List.mapM_cons, ← ofClasses]
  cases (ofClass ctx c).outcome with
  | error e' => simp [bind, Except.bind]
  | ok r => cases ofClasses ctx rest <;> simp [bind, Except.bind, pure, Except.pure]

end ClassRecord

namespace AnnotatedClass

variable {ctx : Context} {c : AnnotatedClass}

theorem outcome_serialize_of_ok {r : ClassRecord}
    (done : (ClassRecord.ofClass ctx c).outcome = .ok r) :
    (c.serialize ctx).outcome = .ok r.serialize :=
  Traced.outcome_bind_eq_ok.mpr ⟨r, done, rfl⟩

theorem outcome_serialize_of_error {e : StructureError}
    (failed : (ClassRecord.ofClass ctx c).outcome = .error e) :
    (c.serialize ctx).outcome = .error e :=
  Traced.outcome_bind_eq_error.mpr (.inl failed)

end AnnotatedClass
end ClassAtlas
