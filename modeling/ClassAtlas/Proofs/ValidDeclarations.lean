import ClassAtlas.Declarations.Check
import ClassAtlas.Proofs.CheckOutcome

/-!
Declarations that a document can give. An annotation has each attribute once, and no part lies
within as many others as a check goes deep. What passes a check is valid in this sense.
-/
namespace ClassAtlas

open Check

namespace Check

variable {α : Type}

theorem Nest.length_lt_of_admits {nest : Nest} {number : Option Nat}
    (admitted : nest.admits number) : nest.length < limit := by
  rw [admits, Bool.and_eq_true, decide_eq_true_eq] at admitted
  exact admitted.1

/-- What holds of all that an item can pass as holds of the items of a list that passes. -/
theorem forall_of_optional_listOf {P : α → Prop} {key : String} {check : Value → Check α}
    {entries : Entries} {as : List α} (sound : ∀ {v a}, check v = .pass a → P a)
    (passed : optional key [] (listOf check) entries = .pass as) : ∀ a ∈ as, P a := by
  cases optional_eq_pass_iff.mp passed with
  | inl absent =>
      rw [← absent.2]
      exact fun a mem => absurd mem List.not_mem_nil
  | inr given =>
      obtain ⟨v, _, listed⟩ := given
      intro a mem
      obtain ⟨item, checked⟩ := exists_of_listOf listed a mem
      exact sound checked

end Check

namespace AnnotationUse

/-- An annotation within a number of parts. -/
structure Valid (n : Nat) (a : AnnotationUse) : Prop where
  within : n < Nest.limit
  distinct : (a.values.map Prod.fst).Nodup

variable {key : String} {value : Value} {values : List (String × Value)}

theorem mem_keys_putValue {other : String} :
    other ∈ (putValue key value values).map Prod.fst ↔
      other = key ∨ other ∈ values.map Prod.fst := by
  induction values with
  | nil => simp [putValue]
  | cons entry rest ih =>
      rw [putValue]
      split
      case isTrue same => simp [same]
      case isFalse =>
        rw [List.map_cons, List.mem_cons, ih, List.map_cons, List.mem_cons]
        exact or_left_comm

theorem nodup_keys_putValue (distinct : (values.map Prod.fst).Nodup) :
    ((putValue key value values).map Prod.fst).Nodup := by
  induction values with
  | nil => simp [putValue]
  | cons entry rest ih =>
      obtain ⟨new, others⟩ := List.nodup_cons.mp distinct
      rw [putValue]
      split
      case isTrue => exact distinct
      case isFalse other =>
        refine List.nodup_cons.mpr ⟨?_, ih others⟩
        rw [mem_keys_putValue, not_or]
        exact ⟨other, new⟩

theorem nodup_keys_foldl_putValue {pairs kept : List (String × Value)}
    (distinct : (kept.map Prod.fst).Nodup) :
    ((pairs.foldl (fun kept (key, v) => putValue key v kept) kept).map Prod.fst).Nodup := by
  induction pairs generalizing kept with
  | nil => exact distinct
  | cons pair rest ih => exact ih (nodup_keys_putValue distinct)

theorem nodup_of_checkValues {v : Value} (passed : checkValues v = .pass values) :
    (values.map Prod.fst).Nodup := by
  rw [checkValues] at passed
  split at passed
  case h_1 entries _ =>
    obtain ⟨pairs, _, same⟩ := map_eq_pass_iff.mp passed
    rw [← same]
    exact nodup_keys_foldl_putValue List.nodup_nil
  case h_2 => cases passed

theorem nodup_of_check {v : Value} {a : AnnotationUse} (passed : check v = .pass a) :
    (a.values.map Prod.fst).Nodup := by
  rw [check] at passed
  split at passed
  case h_1 entries _ =>
    obtain ⟨_, values, named, listed, same⟩ := seq_eq_pass_iff.mp passed
    obtain ⟨kind, _, made⟩ := map_eq_pass_iff.mp named
    rw [← same, ← made]
    cases optional_eq_pass_iff.mp listed with
    | inl absent =>
        rw [← absent.2]
        exact List.nodup_nil
    | inr given =>
        obtain ⟨v, _, checked⟩ := given
        exact nodup_of_checkValues checked
  case h_2 => cases passed

theorem valid_of_checkWithin {nest : Nest} {v : Value} {a : AnnotationUse}
    (passed : checkWithin nest v = .pass a) : a.Valid nest.length := by
  rw [checkWithin] at passed
  split at passed
  case isTrue admitted => exact ⟨Nest.length_lt_of_admits admitted, nodup_of_check passed⟩
  case isFalse => cases passed

theorem valid_of_checkAllWithin {nest : Nest} {entries : Entries} {as : List AnnotationUse}
    (passed : checkAllWithin nest entries = .pass as) : ∀ a ∈ as, a.Valid nest.length :=
  forall_of_optional_listOf valid_of_checkWithin passed

end AnnotationUse

namespace SourceType

/-- A type within a number of parts. -/
inductive Valid : Nat → SourceType → Prop where
  | plain {n : Nat} {name : String} {as : List AnnotationUse} (within : n < Nest.limit)
      (annotations : ∀ a ∈ as, a.Valid (n + 1)) : Valid n (.plain name as)
  | parameterized {n : Nat} {name : String} {ts : List SourceType} {as : List AnnotationUse}
      (within : n < Nest.limit) (arguments : ∀ t ∈ ts, Valid (n + 1) t)
      (annotations : ∀ a ∈ as, a.Valid (n + 1)) : Valid n (.parameterized name ts as)
  | unbounded {n : Nat} {variance : Variance} {as : List AnnotationUse} (within : n < Nest.limit)
      (annotations : ∀ a ∈ as, a.Valid (n + 1)) : Valid n (.wildcard variance none as)
  | wildcard {n : Nat} {variance : Variance} {t : SourceType} {as : List AnnotationUse}
      (within : n < Nest.limit) (bound : Valid (n + 1) t)
      (annotations : ∀ a ∈ as, a.Valid (n + 1)) : Valid n (.wildcard variance (some t) as)
  | array {n : Nat} {t : SourceType} {as : List AnnotationUse} (within : n < Nest.limit)
      (component : Valid (n + 1) t) (annotations : ∀ a ∈ as, a.Valid (n + 1)) :
      Valid n (.array t as)

mutual

theorem valid_of_checkWithin : (v : Value) → {nest : Nest} → {number : Option Nat} →
    {t : SourceType} → checkWithin nest number v = .pass t → t.Valid nest.length
  | .map entries, nest, number, t, passed => by
      rw [checkWithin] at passed
      split at passed
      · cases passed
      split at passed
      · cases passed
      next shape _ =>
        rw [under_eq_pass_iff] at passed
        split at passed
        case isFalse => cases passed
        case isTrue admitted =>
          have within := Nest.length_lt_of_admits admitted
          cases shape with
          | plain =>
              obtain ⟨_, _, head, marked, rfl⟩ := seq_eq_pass_iff.mp passed
              obtain ⟨name, _, rfl⟩ := map_eq_pass_iff.mp head
              exact .plain within (AnnotationUse.valid_of_checkAllWithin marked)
          | parameterized =>
              obtain ⟨_, _, head, marked, rfl⟩ := seq_eq_pass_iff.mp passed
              obtain ⟨_, arguments, first, given, rfl⟩ := seq_eq_pass_iff.mp head
              obtain ⟨name, _, rfl⟩ := map_eq_pass_iff.mp first
              exact .parameterized within (valid_of_checkListField entries given)
                (AnnotationUse.valid_of_checkAllWithin marked)
          | wildcard =>
              obtain ⟨_, _, head, marked, rfl⟩ := seq_eq_pass_iff.mp passed
              obtain ⟨_, bound, first, given, rfl⟩ := seq_eq_pass_iff.mp head
              obtain ⟨variance, _, rfl⟩ := map_eq_pass_iff.mp first
              have annotations := AnnotationUse.valid_of_checkAllWithin marked
              cases bound with
              | none => exact .unbounded within annotations
              | some bound => exact .wildcard within (valid_of_checkBound entries given) annotations
          | array =>
              obtain ⟨_, _, head, marked, rfl⟩ := seq_eq_pass_iff.mp passed
              obtain ⟨component, given, rfl⟩ := map_eq_pass_iff.mp head
              exact .array within (valid_of_checkField entries given)
                (AnnotationUse.valid_of_checkAllWithin marked)
  | .endless number v, _, _, _, passed => by
      rw [checkWithin] at passed
      exact valid_of_checkWithin v passed
  | .null, _, _, _, passed | .bool _, _, _, _, passed | .int _, _, _, _, passed
  | .float _, _, _, _, passed | .str _, _, _, _, passed | .bytes _, _, _, _, passed
  | .date _, _, _, _, passed | .dateTime _, _, _, _, passed | .seq _, _, _, _, passed
  | .set _, _, _, _, passed | .tuple _, _, _, _, passed => by cases passed

theorem valid_of_checkField : (entries : Entries) → {nest : Nest} → {key : String} →
    {t : SourceType} →
    (checkField nest key entries).getD ((refuse .missing).under (.name key)) = .pass t →
      t.Valid nest.length
  | [], _, _, _, passed => by cases passed
  | (k, v) :: rest, nest, key, t, passed => by
      cases k
      case str k =>
        rw [checkField] at passed
        split at passed
        · exact valid_of_checkWithin v (under_eq_pass_iff.mp passed)
        · exact valid_of_checkField rest passed
      all_goals exact valid_of_checkField rest passed

theorem valid_of_checkBound : (entries : Entries) → {nest : Nest} → {t : SourceType} →
    (checkBound nest entries).getD (.pass none) = .pass (some t) → t.Valid nest.length
  | [], _, _, passed => by cases passed
  | (k, v) :: rest, nest, t, passed => by
      cases k
      case str k =>
        by_cases null : v = .null
        · rw [null, checkBound] at passed
          split at passed
          · cases passed
          · exact valid_of_checkBound rest passed
        · rw [checkBound] at passed
          · split at passed
            · obtain ⟨bound, given, same⟩ :=
                map_eq_pass_iff.mp (under_eq_pass_iff.mp passed)
              cases same
              exact valid_of_checkWithin v given
            · exact valid_of_checkBound rest passed
          · exact null
      all_goals exact valid_of_checkBound rest passed

theorem valid_of_checkListField : (entries : Entries) → {nest : Nest} → {key : String} →
    {ts : List SourceType} → (checkListField nest key entries).getD (.pass []) = .pass ts →
      ∀ t ∈ ts, t.Valid nest.length
  | [], _, _, _, passed => by
      cases passed
      exact fun t mem => absurd mem List.not_mem_nil
  | (k, v) :: rest, nest, key, ts, passed => by
      cases k
      case str k =>
        rw [checkListField] at passed
        split at passed
        · exact valid_of_checkListWithin v (under_eq_pass_iff.mp passed)
        · exact valid_of_checkListField rest passed
      all_goals exact valid_of_checkListField rest passed

theorem valid_of_checkListWithin : (v : Value) → {nest : Nest} → {ts : List SourceType} →
    checkListWithin nest v = .pass ts → ∀ t ∈ ts, t.Valid nest.length
  | .seq items, _, _, passed | .tuple items, _, _, passed | .set items, _, _, passed =>
      valid_of_checkItems items passed
  | .endless _ v, _, _, passed => by
      rw [checkListWithin] at passed
      exact valid_of_checkListWithin v passed
  | .null, _, _, passed | .bool _, _, _, passed | .int _, _, _, passed | .float _, _, _, passed
  | .str _, _, _, passed | .bytes _, _, _, passed | .date _, _, _, passed
  | .dateTime _, _, _, passed | .map _, _, _, passed => by cases passed

theorem valid_of_checkItems : (items : List Value) → {nest : Nest} → {index : Nat} →
    {ts : List SourceType} → checkItems nest index items = .pass ts →
      ∀ t ∈ ts, t.Valid nest.length
  | [], _, _, _, passed => by
      cases passed
      exact fun t mem => absurd mem List.not_mem_nil
  | v :: rest, nest, index, ts, passed => by
      obtain ⟨_, more, head, tail, rfl⟩ := seq_eq_pass_iff.mp passed
      obtain ⟨t, first, rfl⟩ := map_eq_pass_iff.mp head
      exact List.forall_mem_cons.mpr
        ⟨valid_of_checkWithin v (under_eq_pass_iff.mp first), valid_of_checkItems rest tail⟩

end

theorem valid_of_check {v : Value} {t : SourceType} (passed : check v = .pass t) : t.Valid 0 :=
  valid_of_checkWithin v passed

end SourceType

section Records

variable {entries : Entries}

theorem VariableDecl.checkFields_eq_pass_iff {nest : Nest} {d : VariableDecl} :
    checkFields nest entries = .pass d ↔
      required "name" Check.text entries = .pass d.name ∧
      required "type" (SourceType.checkWithin nest none) entries = .pass d.type ∧
      Modifier.checkAll entries = .pass d.modifiers ∧
      AnnotationUse.checkAllWithin nest entries = .pass d.annotations := by
  simp only [checkFields, seq_eq_pass_iff, map_eq_pass_iff]
  constructor
  · rintro ⟨_, _, ⟨_, _, ⟨_, _, ⟨_, name, rfl⟩, type, rfl⟩, modifiers, rfl⟩, annotations, rfl⟩
    exact ⟨name, type, modifiers, annotations⟩
  · intro ⟨name, type, modifiers, annotations⟩
    exact ⟨_, _, ⟨_, _, ⟨_, _, ⟨_, name, rfl⟩, type, rfl⟩, modifiers, rfl⟩, annotations, rfl⟩

theorem MethodDecl.checkFields_eq_pass_iff {d : MethodDecl} : checkFields entries = .pass d ↔
    required "name" Check.text entries = .pass d.name ∧
    optional (returnKey entries) (.bare "void") SourceType.check entries = .pass d.returnType ∧
    VariableDecl.checkParameters entries = .pass d.parameters ∧
    Modifier.checkAll entries = .pass d.modifiers ∧
    AnnotationUse.checkAll entries = .pass d.annotations := by
  simp only [checkFields, seq_eq_pass_iff, map_eq_pass_iff]
  constructor
  · rintro ⟨_, _, ⟨_, _, ⟨_, _, ⟨_, _, ⟨_, name, rfl⟩, type, rfl⟩, parameters, rfl⟩, modifiers, rfl⟩,
      annotations, rfl⟩
    exact ⟨name, type, parameters, modifiers, annotations⟩
  · intro ⟨name, type, parameters, modifiers, annotations⟩
    exact ⟨_, _, ⟨_, _, ⟨_, _, ⟨_, _, ⟨_, name, rfl⟩, type, rfl⟩, parameters, rfl⟩, modifiers, rfl⟩,
      annotations, rfl⟩

theorem ConstructorDecl.checkFields_eq_pass_iff {d : ConstructorDecl} :
    checkFields entries = .pass d ↔ VariableDecl.checkParameters entries = .pass d.parameters ∧
      Modifier.checkAll entries = .pass d.modifiers ∧
      AnnotationUse.checkAll entries = .pass d.annotations := by
  simp only [checkFields, seq_eq_pass_iff, map_eq_pass_iff]
  constructor
  · rintro ⟨_, _, ⟨_, _, ⟨_, parameters, rfl⟩, modifiers, rfl⟩, annotations, rfl⟩
    exact ⟨parameters, modifiers, annotations⟩
  · intro ⟨parameters, modifiers, annotations⟩
    exact ⟨_, _, ⟨_, _, ⟨_, parameters, rfl⟩, modifiers, rfl⟩, annotations, rfl⟩

theorem ClassDecl.checkFields_eq_pass_iff {d : ClassDecl} : checkFields entries = .pass d ↔
    required "name" Check.text entries = .pass d.name ∧
    optional "kind" .plainClass TypeKind.check entries = .pass d.kind ∧
    optional "namespace" none checkNamespace entries = .pass d.givenNamespace ∧
    Modifier.checkAll entries = .pass d.modifiers ∧
    AnnotationUse.checkAll entries = .pass d.annotations ∧
    optional "supertypes" [] SourceType.checkList entries = .pass d.supertypes ∧
    optional "fields" [] (listOf VariableDecl.checkField) entries = .pass d.fields ∧
    optional "constructors" [] (listOf ConstructorDecl.check) entries = .pass d.constructors ∧
    optional "methods" [] (listOf MethodDecl.check) entries = .pass d.methods := by
  simp only [checkFields, seq_eq_pass_iff, map_eq_pass_iff]
  constructor
  · rintro ⟨_, _, ⟨_, _, ⟨_, _, ⟨_, _, ⟨_, _, ⟨_, _, ⟨_, _, ⟨_, _, ⟨_, name, rfl⟩, kind, rfl⟩,
      given, rfl⟩, modifiers, rfl⟩, annotations, rfl⟩, supertypes, rfl⟩, fields, rfl⟩,
      constructors, rfl⟩, methods, rfl⟩
    exact ⟨name, kind, given, modifiers, annotations, supertypes, fields, constructors, methods⟩
  · intro ⟨name, kind, given, modifiers, annotations, supertypes, fields, constructors, methods⟩
    exact ⟨_, _, ⟨_, _, ⟨_, _, ⟨_, _, ⟨_, _, ⟨_, _, ⟨_, _, ⟨_, _, ⟨_, name, rfl⟩, kind, rfl⟩,
      given, rfl⟩, modifiers, rfl⟩, annotations, rfl⟩, supertypes, rfl⟩, fields, rfl⟩,
      constructors, rfl⟩, methods, rfl⟩

theorem Declarations.checkFields_eq_pass_iff {d : Declarations} : checkFields entries = .pass d ↔
    optional "classes" [] (listOf ClassDecl.check) entries = .pass d.classes := by
  rw [checkFields, map_eq_pass_iff]
  constructor
  · intro ⟨classes, listed, same⟩
    rw [← same]
    exact listed
  · exact fun listed => ⟨_, listed, rfl⟩

/-- The keys of a method, as its document writes the return type. -/
theorem MethodDecl.check_eq_pass_iff {v : Value} {d : MethodDecl} : check v = .pass d ↔
    ∃ entries, v.opened = .map entries ∧
      strayKeys ["name", returnKey entries, "parameters", "modifiers", "annotations"] entries = [] ∧
      checkFields entries = .pass d := by
  rw [check]
  split
  case h_1 entries opened =>
    rw [closedRecord_eq_pass_iff, opened]
    constructor
    · intro ⟨_, same, closed, checked⟩
      cases same
      exact ⟨entries, rfl, closed, checked⟩
    · intro ⟨_, same, closed, checked⟩
      cases same
      exact ⟨entries, rfl, closed, checked⟩
  case h_2 other =>
    constructor
    · intro passed
      cases passed
    · intro ⟨entries, opened, _⟩
      exact absurd opened (other entries)

end Records

/-- A variable within a number of parts, of which its type and annotations are parts. -/
structure VariableDecl.Valid (n : Nat) (d : VariableDecl) : Prop where
  type : d.type.Valid n
  annotations : ∀ a ∈ d.annotations, a.Valid n

structure MethodDecl.Valid (d : MethodDecl) : Prop where
  returnType : d.returnType.Valid 0
  parameters : ∀ p ∈ d.parameters, p.Valid 1
  annotations : ∀ a ∈ d.annotations, a.Valid 0

structure ConstructorDecl.Valid (d : ConstructorDecl) : Prop where
  parameters : ∀ p ∈ d.parameters, p.Valid 1
  annotations : ∀ a ∈ d.annotations, a.Valid 0

structure ClassDecl.Valid (d : ClassDecl) : Prop where
  annotations : ∀ a ∈ d.annotations, a.Valid 0
  supertypes : ∀ t ∈ d.supertypes, t.Valid 0
  fields : ∀ f ∈ d.fields, f.Valid 0
  constructors : ∀ c ∈ d.constructors, c.Valid
  methods : ∀ m ∈ d.methods, m.Valid

def Declarations.Valid (d : Declarations) : Prop := ∀ c ∈ d.classes, c.Valid

namespace VariableDecl

theorem valid_of_checkFields {nest : Nest} {entries : Entries} {d : VariableDecl}
    (passed : checkFields nest entries = .pass d) : d.Valid nest.length := by
  obtain ⟨_, typed, _, marked⟩ := checkFields_eq_pass_iff.mp passed
  obtain ⟨v, _, typed⟩ := required_eq_pass_iff.mp typed
  exact ⟨SourceType.valid_of_checkWithin v typed, AnnotationUse.valid_of_checkAllWithin marked⟩

theorem valid_of_checkField {v : Value} {d : VariableDecl} (passed : checkField v = .pass d) :
    d.Valid 0 := by
  obtain ⟨entries, _, _, checked⟩ := closedRecord_eq_pass_iff.mp passed
  exact valid_of_checkFields checked

theorem valid_of_checkParameter {v : Value} {d : VariableDecl}
    (passed : checkParameter v = .pass d) : d.Valid 1 := by
  obtain ⟨entries, _, _, checked⟩ := closedRecord_eq_pass_iff.mp passed
  exact valid_of_checkFields checked

theorem valid_of_checkParameters {entries : Entries} {ds : List VariableDecl}
    (passed : checkParameters entries = .pass ds) : ∀ d ∈ ds, d.Valid 1 :=
  forall_of_optional_listOf valid_of_checkParameter passed

end VariableDecl

theorem MethodDecl.valid_of_check {v : Value} {d : MethodDecl} (passed : check v = .pass d) :
    d.Valid := by
  obtain ⟨entries, _, _, checked⟩ := check_eq_pass_iff.mp passed
  obtain ⟨_, returned, listed, _, marked⟩ := checkFields_eq_pass_iff.mp checked
  refine ⟨?_, VariableDecl.valid_of_checkParameters listed,
    AnnotationUse.valid_of_checkAllWithin marked⟩
  cases optional_eq_pass_iff.mp returned with
  | inl absent =>
      rw [← absent.2]
      exact .plain (by decide) fun a mem => absurd mem List.not_mem_nil
  | inr given =>
      obtain ⟨v, _, checked⟩ := given
      exact SourceType.valid_of_check checked

theorem ConstructorDecl.valid_of_check {v : Value} {d : ConstructorDecl}
    (passed : check v = .pass d) : d.Valid := by
  obtain ⟨entries, _, _, checked⟩ := closedRecord_eq_pass_iff.mp passed
  obtain ⟨listed, _, marked⟩ := checkFields_eq_pass_iff.mp checked
  exact ⟨VariableDecl.valid_of_checkParameters listed, AnnotationUse.valid_of_checkAllWithin marked⟩

theorem ClassDecl.valid_of_check {v : Value} {d : ClassDecl} (passed : check v = .pass d) :
    d.Valid := by
  obtain ⟨entries, _, _, checked⟩ := closedRecord_eq_pass_iff.mp passed
  obtain ⟨_, _, _, _, marked, extended, fields, constructors, methods⟩ :=
    checkFields_eq_pass_iff.mp checked
  refine ⟨AnnotationUse.valid_of_checkAllWithin marked, ?_,
    forall_of_optional_listOf VariableDecl.valid_of_checkField fields,
    forall_of_optional_listOf ConstructorDecl.valid_of_check constructors,
    forall_of_optional_listOf MethodDecl.valid_of_check methods⟩
  cases optional_eq_pass_iff.mp extended with
  | inl absent =>
      rw [← absent.2]
      exact fun t mem => absurd mem List.not_mem_nil
  | inr given =>
      obtain ⟨v, _, checked⟩ := given
      exact SourceType.valid_of_checkListWithin v checked

theorem Declarations.valid_of_check {v : Value} {d : Declarations} (passed : check v = .pass d) :
    d.Valid := by
  obtain ⟨entries, _, _, checked⟩ := closedRecord_eq_pass_iff.mp passed
  exact forall_of_optional_listOf ClassDecl.valid_of_check (checkFields_eq_pass_iff.mp checked)

end ClassAtlas
