import ClassAtlas.Declarations.Rendering
import ClassAtlas.Proofs.Lists
import ClassAtlas.Proofs.ValidDeclarations

/-!
Declarations written out with every field. Where they are valid, a check passes what is written, and
gives them back.
-/
namespace ClassAtlas

open Check

namespace Check

variable {α : Type}

theorem itemsFrom_map {check : Value → Check α} {render : α → Value} {as : List α}
    (each : ∀ a ∈ as, check (render a) = .pass a) (index : Nat) :
    itemsFrom check index (as.map render) = .pass as := by
  induction as generalizing index with
  | nil => rfl
  | cons a rest ih =>
      obtain ⟨first, others⟩ := List.forall_mem_cons.mp each
      rw [List.map_cons, itemsFrom, first, ih others]
      rfl

/-- A list of which each item is given back is given back. -/
theorem optional_listOf_map {key : String} {check : Value → Check α} {render : α → Value}
    {as : List α} {entries : Entries} (each : ∀ a ∈ as, check (render a) = .pass a)
    (held : Value.field? key entries = some (.seq (as.map render))) :
    optional key [] (listOf check) entries = .pass as :=
  optional_eq_pass_iff.mpr (.inr ⟨_, held, itemsFrom_map each 0⟩)

theorem required_of_held {key : String} {check : Value → Check α} {a : α} {v : Value}
    {entries : Entries} (held : Value.field? key entries = some v) (passed : check v = .pass a) :
    required key check entries = .pass a :=
  required_eq_pass_iff.mpr ⟨v, held, passed⟩

theorem optional_of_held {key : String} {default : α} {check : Value → Check α} {a : α} {v : Value}
    {entries : Entries} (held : Value.field? key entries = some v) (passed : check v = .pass a) :
    optional key default check entries = .pass a :=
  optional_eq_pass_iff.mpr (.inr ⟨v, held, passed⟩)

theorem Nest.admits_none {nest : Nest} (within : nest.length < limit) :
    nest.admits none = true := by
  simp [admits, within]

end Check

namespace Modifier

theorem check_toValue (m : Modifier) : check m.toValue = .pass m := by
  cases m <;> rfl

theorem checkAll_of_held {ms : List Modifier} {entries : Entries}
    (held : Value.field? "modifiers" entries = some (.seq (ms.map toValue))) :
    checkAll entries = .pass ms :=
  optional_listOf_map (fun m _ => check_toValue m) held

end Modifier

namespace AnnotationUse

theorem keyed_valueEntries (values : List (String × Value)) :
    keyed (valueEntries values) = .pass values := by
  induction values with
  | nil => rfl
  | cons entry rest ih =>
      obtain ⟨key, v⟩ := entry
      have more : keyed (valueEntries ((key, v) :: rest)) =
        (fun k more => (k, v) :: more) <$> checkKey (.str key) <*> keyed (valueEntries rest) := rfl
      rw [more, ih]
      rfl

theorem putValue_of_not_mem {key : String} {values : List (String × Value)}
    (new : key ∉ values.map Prod.fst) (v : Value) : putValue key v values = values ++ [(key, v)] := by
  induction values with
  | nil => rfl
  | cons entry rest ih =>
      rw [List.map_cons, List.mem_cons, not_or] at new
      rw [putValue, if_neg (Ne.symm new.1), ih new.2, List.cons_append]

theorem checkValues_valueEntries {values : List (String × Value)}
    (distinct : (values.map Prod.fst).Nodup) :
    checkValues (.map (valueEntries values)) = .pass values := by
  have opened : (Value.map (valueEntries values)).opened = .map (valueEntries values) := rfl
  rw [checkValues, opened]
  dsimp only
  rw [keyed_valueEntries]
  exact congrArg Check.pass (foldl_put_eq_append putValue_of_not_mem distinct)

theorem check_toValue {a : AnnotationUse} (distinct : (a.values.map Prod.fst).Nodup) :
    check a.toValue = .pass a := by
  have whole : check a.toValue = mk <$> Check.pass a.kind <*>
      (checkValues (.map (valueEntries a.values))).under (.name "values") := rfl
  rw [whole, checkValues_valueEntries distinct]
  rfl

theorem checkWithin_toValue {nest : Nest} {a : AnnotationUse} (valid : a.Valid nest.length) :
    checkWithin nest a.toValue = .pass a := by
  rw [checkWithin, if_pos (Nest.admits_none valid.within), check_toValue valid.distinct]

theorem checkAllWithin_of_held {nest : Nest} {as : List AnnotationUse} {entries : Entries}
    (valid : ∀ a ∈ as, a.Valid nest.length)
    (held : Value.field? "annotations" entries = some (.seq (as.map toValue))) :
    checkAllWithin nest entries = .pass as :=
  optional_listOf_map (fun a mem => checkWithin_toValue (valid a mem)) held

end AnnotationUse

theorem Variance.check_word (variance : Variance) : check (.str variance.word) = .pass variance := by
  cases variance <;> rfl

namespace SourceType

theorem toValue_ne_null (t : SourceType) : t.toValue ≠ .null := by
  cases t with
  | wildcard variance bound as => cases bound <;> simp [toValue]
  | _ => simp [toValue]

theorem checkItems_argumentValues {nest : Nest} {ts : List SourceType}
    (each : ∀ t ∈ ts, checkWithin nest none t.toValue = .pass t) (index : Nat) :
    checkItems nest index (argumentValues ts) = .pass ts := by
  induction ts generalizing index with
  | nil => rfl
  | cons t rest ih =>
      obtain ⟨first, others⟩ := List.forall_mem_cons.mp each
      rw [argumentValues, checkItems, first, ih others]
      rfl

section Shapes

variable {nest : Nest} {entries : Entries} {name : String} {as : List AnnotationUse}

theorem checkWithin_plain (within : nest.length < Nest.limit)
    (tag : Value.field? "kind" entries = some (.str "plain"))
    (named : required "name" Check.text entries = .pass name)
    (marked : AnnotationUse.checkAllWithin (none :: nest) entries = .pass as) :
    checkWithin nest none (.map entries) = .pass (.plain name as) := by
  rw [checkWithin, tag]
  simp only [shapeOf?, Nest.admits_none within, if_true, named, marked]
  rfl

theorem checkWithin_parameterized {ts : List SourceType} (within : nest.length < Nest.limit)
    (tag : Value.field? "kind" entries = some (.str "parameterized"))
    (named : required "name" Check.text entries = .pass name)
    (given : checkListField (none :: nest) "arguments" entries =
      some ((Check.pass ts).under (.name "arguments")))
    (marked : AnnotationUse.checkAllWithin (none :: nest) entries = .pass as) :
    checkWithin nest none (.map entries) = .pass (.parameterized name ts as) := by
  rw [checkWithin, tag]
  simp only [shapeOf?, Nest.admits_none within, if_true, named, given, marked]
  rfl

theorem checkWithin_wildcard {variance : Variance} {bound : Option SourceType}
    (within : nest.length < Nest.limit)
    (tag : Value.field? "kind" entries = some (.str "wildcard"))
    (directed : required "variance" Variance.check entries = .pass variance)
    (given : checkBound (none :: nest) entries = some (.pass bound))
    (marked : AnnotationUse.checkAllWithin (none :: nest) entries = .pass as) :
    checkWithin nest none (.map entries) = .pass (.wildcard variance bound as) := by
  rw [checkWithin, tag]
  simp only [shapeOf?, Nest.admits_none within, if_true, directed, given, marked]
  rfl

theorem checkWithin_array {t : SourceType} (within : nest.length < Nest.limit)
    (tag : Value.field? "kind" entries = some (.str "array"))
    (given : checkField (none :: nest) "component_type" entries =
      some ((Check.pass t).under (.name "component_type")))
    (marked : AnnotationUse.checkAllWithin (none :: nest) entries = .pass as) :
    checkWithin nest none (.map entries) = .pass (.array t as) := by
  rw [checkWithin, tag]
  simp only [shapeOf?, Nest.admits_none within, if_true, given, marked]
  rfl

end Shapes

/-- By induction on the type, whose parts lie within one part more. -/
theorem checkWithin_toValue {n : Nat} {t : SourceType} (valid : t.Valid n) {nest : Nest}
    (around : nest.length = n) : checkWithin nest none t.toValue = .pass t := by
  induction valid generalizing nest with
  | plain within annotations =>
      rw [← around] at within annotations
      rw [toValue]
      exact checkWithin_plain within rfl (required_of_held rfl rfl)
        (AnnotationUse.checkAllWithin_of_held annotations rfl)
  | @parameterized n name ts as within arguments annotations ih =>
      rw [← around] at within annotations
      have given : checkItems (none :: nest) 0 (argumentValues ts) = .pass ts :=
        checkItems_argumentValues (fun t mem => ih t mem (by rw [List.length_cons, around])) 0
      rw [toValue]
      refine checkWithin_parameterized within rfl (required_of_held rfl rfl) ?_
        (AnnotationUse.checkAllWithin_of_held annotations rfl)
      simp [checkListField, checkListWithin, given]
  | unbounded within annotations =>
      rw [← around] at within annotations
      rw [toValue]
      refine checkWithin_wildcard within rfl (required_of_held rfl (Variance.check_word _)) ?_
        (AnnotationUse.checkAllWithin_of_held annotations rfl)
      simp [checkBound]
  | @wildcard n variance t as within bound annotations ih =>
      rw [← around] at within annotations
      have given : checkWithin (none :: nest) none t.toValue = .pass t :=
        ih (by rw [List.length_cons, around])
      rw [toValue]
      refine checkWithin_wildcard within rfl (required_of_held rfl (Variance.check_word _)) ?_
        (AnnotationUse.checkAllWithin_of_held annotations rfl)
      simp [checkBound, toValue_ne_null, given]
      rfl
  | @array n t as within component annotations ih =>
      rw [← around] at within annotations
      have given : checkWithin (none :: nest) none t.toValue = .pass t :=
        ih (by rw [List.length_cons, around])
      rw [toValue]
      refine checkWithin_array within rfl ?_ (AnnotationUse.checkAllWithin_of_held annotations rfl)
      simp [checkField, given]

theorem check_toValue {t : SourceType} (valid : t.Valid 0) : check t.toValue = .pass t :=
  checkWithin_toValue valid rfl

theorem checkList_argumentValues {ts : List SourceType} (valid : ∀ t ∈ ts, t.Valid 0) :
    checkList (.seq (argumentValues ts)) = .pass ts :=
  checkItems_argumentValues (fun t mem => check_toValue (valid t mem)) 0

end SourceType

namespace VariableDecl

theorem checkFields_toValue {nest : Nest} {d : VariableDecl} (valid : d.Valid nest.length) :
    closedRecord fields (checkFields nest) d.toValue = .pass d := by
  rw [closedRecord_eq_pass_iff]
  refine ⟨_, rfl, rfl, checkFields_eq_pass_iff.mpr ⟨?_, ?_, ?_, ?_⟩⟩
  · exact required_of_held rfl rfl
  · exact required_of_held rfl (SourceType.checkWithin_toValue valid.type rfl)
  · exact Modifier.checkAll_of_held rfl
  · exact AnnotationUse.checkAllWithin_of_held valid.annotations rfl

theorem checkParameters_of_held {ds : List VariableDecl} {entries : Entries}
    (valid : ∀ d ∈ ds, d.Valid 1)
    (held : Value.field? "parameters" entries = some (.seq (ds.map toValue))) :
    checkParameters entries = .pass ds :=
  optional_listOf_map (fun d mem => checkFields_toValue (valid d mem)) held

end VariableDecl

theorem MethodDecl.check_toValue {d : MethodDecl} (valid : d.Valid) : check d.toValue = .pass d := by
  rw [check_eq_pass_iff]
  refine ⟨_, rfl, rfl, checkFields_eq_pass_iff.mpr ⟨?_, ?_, ?_, ?_, ?_⟩⟩
  · exact required_of_held rfl rfl
  · exact optional_of_held rfl (SourceType.check_toValue valid.returnType)
  · exact VariableDecl.checkParameters_of_held valid.parameters rfl
  · exact Modifier.checkAll_of_held rfl
  · exact AnnotationUse.checkAllWithin_of_held valid.annotations rfl

theorem ConstructorDecl.check_toValue {d : ConstructorDecl} (valid : d.Valid) :
    check d.toValue = .pass d := by
  refine closedRecord_eq_pass_iff.mpr ⟨_, rfl, rfl, checkFields_eq_pass_iff.mpr ⟨?_, ?_, ?_⟩⟩
  · exact VariableDecl.checkParameters_of_held valid.parameters rfl
  · exact Modifier.checkAll_of_held rfl
  · exact AnnotationUse.checkAllWithin_of_held valid.annotations rfl

theorem TypeKind.check_word (k : TypeKind) : check (.str k.word) = .pass k := by
  cases k <;> rfl

theorem ClassDecl.checkNamespace_elim (given : Option String) :
    checkNamespace (given.elim .null .str) = .pass given := by
  cases given <;> rfl

theorem ClassDecl.check_toValue {d : ClassDecl} (valid : d.Valid) : check d.toValue = .pass d := by
  refine closedRecord_eq_pass_iff.mpr
    ⟨_, rfl, rfl, checkFields_eq_pass_iff.mpr ⟨?_, ?_, ?_, ?_, ?_, ?_, ?_, ?_, ?_⟩⟩
  · exact required_of_held rfl rfl
  · exact optional_of_held rfl (TypeKind.check_word d.kind)
  · exact optional_of_held rfl (checkNamespace_elim d.givenNamespace)
  · exact Modifier.checkAll_of_held rfl
  · exact AnnotationUse.checkAllWithin_of_held valid.annotations rfl
  · exact optional_of_held rfl (SourceType.checkList_argumentValues valid.supertypes)
  · exact optional_listOf_map
      (fun f mem => VariableDecl.checkFields_toValue (valid.fields f mem)) rfl
  · exact optional_listOf_map
      (fun c mem => ConstructorDecl.check_toValue (valid.constructors c mem)) rfl
  · exact optional_listOf_map (fun m mem => MethodDecl.check_toValue (valid.methods m mem)) rfl

theorem Declarations.check_toValue {d : Declarations} (valid : d.Valid) :
    check d.toValue = .pass d := by
  refine closedRecord_eq_pass_iff.mpr ⟨_, rfl, rfl, checkFields_eq_pass_iff.mpr ?_⟩
  exact optional_listOf_map (fun c mem => ClassDecl.check_toValue (valid c mem)) rfl

end ClassAtlas
