import ClassAtlas.Proofs.RenderedDeclarations
import Mathlib.Data.List.Forall2

/-!
The two keys for the return type of a method. Which of them a document uses for a method makes no
difference to what it declares, and what it declares can be written out in full and checked again.
-/
namespace ClassAtlas

open Check

namespace Value

variable {key k : String} {x : Value} {before after entries : List (Value × Value)}

theorem field?_append : field? key (before ++ after) =
    (field? key before).or (field? key after) := by
  induction before with
  | nil => rfl
  | cons entry rest ih =>
      obtain ⟨name, v⟩ := entry
      cases name
      case str s =>
        rw [List.cons_append, field?, field?]
        split
        · rfl
        · exact ih
      all_goals exact ih

theorem field?_cons_self : field? key ((.str key, x) :: after) = some x := by
  rw [field?, if_pos rfl]

theorem field?_append_of_ne (other : k ≠ key) :
    field? key (before ++ (.str k, x) :: after) = field? key (before ++ after) := by
  rw [field?_append, field?_append, field?, if_neg other]

theorem field?_eq_none_iff :
    field? key entries = none ↔ ∀ entry ∈ entries, entry.1 ≠ .str key := by
  induction entries with
  | nil => simp [field?]
  | cons entry rest ih =>
      obtain ⟨name, v⟩ := entry
      rw [List.forall_mem_cons, ← ih]
      cases name
      case str s =>
        rw [field?]
        by_cases same : s = key
        · simp [same]
        · simp [same]
      all_goals simp [field?]

end Value

/-- Two mappings that differ at most in what they hold at an entry under a key. -/
inductive DifferUnder (key : String) (R : Value → Value → Prop) : Value → Value → Prop where
  | same (v : Value) : DifferUnder key R v v
  | entry {v w x y : Value} {before after : List (Value × Value)}
      (left : v.opened = .map (before ++ (.str key, x) :: after))
      (right : w.opened = .map (before ++ (.str key, y) :: after)) (related : R x y) :
      DifferUnder key R v w

/-- Two lists that differ at most in their items, one by one. -/
inductive DifferInItems (R : Value → Value → Prop) : Value → Value → Prop where
  | same (v : Value) : DifferInItems R v v
  | items {v w : Value} {xs ys : List Value} (left : v.opened = .seq xs)
      (right : w.opened = .seq ys) (related : List.Forall₂ R xs ys) : DifferInItems R v w

/-- The two keys under which a method can have its return type. -/
def MethodDecl.returnKeys : List String := ["return-type", "return_type"]

/-- Two methods that differ at most in the key of their return type, of which they have one. -/
inductive MethodDecl.Respelled : Value → Value → Prop where
  | same (v : Value) : Respelled v v
  | key {v w x : Value} {k l : String} {before after : List (Value × Value)}
      (left : v.opened = .map (before ++ (.str k, x) :: after))
      (right : w.opened = .map (before ++ (.str l, x) :: after))
      (spelled : k ∈ returnKeys) (respelled : l ∈ returnKeys)
      (once : ∀ key ∈ returnKeys, Value.field? key (before ++ after) = none) : Respelled v w

def ClassDecl.Respelled : Value → Value → Prop :=
  DifferUnder "methods" (DifferInItems MethodDecl.Respelled)

/-- Two documents that differ at most in the keys of return types, at any number of methods. -/
def Declarations.Respelled : Value → Value → Prop :=
  DifferUnder "classes" (DifferInItems ClassDecl.Respelled)

namespace Check

variable {α : Type}

/-- Two checks that pass the same, or neither passes. -/
def Alike (c c' : Check α) : Prop := ∀ a, c = .pass a ↔ c' = .pass a

/-- A check for which values in a relation are alike. -/
def Respects (R : Value → Value → Prop) (check : Value → Check α) : Prop :=
  ∀ v w, R v w → Alike (check v) (check w)

variable {check : Value → Check α} {R : Value → Value → Prop} {key : String} {default : α}
  {entries entries' : Entries}

theorem required_congr (same : Value.field? key entries = Value.field? key entries') :
    required key check entries = required key check entries' := by
  rw [required, same, required]

theorem optional_congr (same : Value.field? key entries = Value.field? key entries') :
    optional key default check entries = optional key default check entries' := by
  rw [optional, same, optional]

theorem optional_iff_of_held {v : Value} {a : α} (held : Value.field? key entries = some v) :
    optional key default check entries = .pass a ↔ check v = .pass a := by
  rw [optional, held]
  exact under_eq_pass_iff

theorem optional_alike (respects : Respects R check) {x y : Value} (related : R x y)
    (before after : Entries) :
    Alike (optional key default check (before ++ (.str key, x) :: after))
      (optional key default check (before ++ (.str key, y) :: after)) := by
  intro a
  rw [optional, optional, Value.field?_append, Value.field?_append, Value.field?_cons_self,
    Value.field?_cons_self]
  cases Value.field? key before with
  | some z => exact .rfl
  | none =>
      rw [Option.none_or, Option.none_or]
      dsimp only
      rw [under_eq_pass_iff, under_eq_pass_iff, respects x y related]

theorem itemsFrom_alike (respects : Respects R check) {xs ys : List Value}
    (related : List.Forall₂ R xs ys) (index : Nat) :
    Alike (itemsFrom check index xs) (itemsFrom check index ys) := by
  intro as
  induction related generalizing index as with
  | nil => exact .rfl
  | cons first others ih =>
      simp only [itemsFrom, seq_eq_pass_iff, map_eq_pass_iff, under_eq_pass_iff,
        respects _ _ first _, ih (index + 1) _]

theorem Respects.listOf (respects : Respects R check) :
    Respects (DifferInItems R) (listOf check) := by
  intro v w related
  cases related with
  | same => exact fun _ => .rfl
  | items left right related =>
      rw [Check.listOf, Check.listOf, left, right]
      exact itemsFrom_alike respects related 0

theorem strayKeys_eq_nil_iff {fields : List String} :
    strayKeys fields entries = [] ↔ ∀ entry ∈ entries, ∃ name ∈ fields, entry.1 = .str name := by
  induction entries with
  | nil => simp [strayKeys]
  | cons entry rest ih =>
      obtain ⟨name, v⟩ := entry
      rw [List.forall_mem_cons, ← ih]
      cases name
      case str s => by_cases known : s ∈ fields <;> simp [strayKeys, known]
      all_goals simp [strayKeys]

/-- An entry with a key of its own, which is a field of the larger record. -/
theorem strayKeys_insert_eq_nil_iff {fields larger : List String} {x : Value}
    {before after : Entries} (absent : Value.field? key (before ++ after) = none)
    (more : ∀ name, name ∈ larger ↔ name = key ∨ name ∈ fields) :
    strayKeys larger (before ++ (.str key, x) :: after) = [] ↔
      strayKeys fields (before ++ after) = [] := by
  rw [Value.field?_eq_none_iff] at absent
  rw [strayKeys_eq_nil_iff, strayKeys_eq_nil_iff]
  constructor
  · intro closed entry mem
    have there : entry ∈ before ++ (.str key, x) :: after :=
      List.mem_append.mpr ((List.mem_append.mp mem).imp_right (List.mem_cons_of_mem _))
    obtain ⟨name, listed, same⟩ := closed entry there
    refine ⟨name, ((more name).mp listed).resolve_left ?_, same⟩
    intro own
    exact absent entry mem (own ▸ same)
  · intro closed entry mem
    rw [List.mem_append, List.mem_cons, or_left_comm, ← List.mem_append] at mem
    cases mem with
    | inl own => exact ⟨key, (more key).mpr (.inl rfl), by rw [own]⟩
    | inr mem =>
        obtain ⟨name, listed, same⟩ := closed entry mem
        exact ⟨name, (more name).mpr (.inr listed), same⟩

/-- A change under a key of a closed record, whose keys stay as they are. -/
theorem respects_closedRecord {fields : List String} {checkFields : Entries → Check α}
    (alike : ∀ x y, R x y → ∀ before after,
      Alike (checkFields (before ++ (.str key, x) :: after))
        (checkFields (before ++ (.str key, y) :: after))) :
    Respects (DifferUnder key R) (closedRecord fields checkFields) := by
  intro v w related
  cases related with
  | same => exact fun _ => .rfl
  | @entry _ x y before after left right related =>
      intro a
      have keys : strayKeys fields (before ++ (.str key, x) :: after) = [] ↔
          strayKeys fields (before ++ (.str key, y) :: after) = [] := by
        simp only [strayKeys_eq_nil_iff, List.forall_mem_append, List.forall_mem_cons]
      simp only [closedRecord_eq_pass_iff, left, right, Value.map.injEq, exists_eq_left', keys,
        alike x y related before after a]

end Check

namespace MethodDecl

variable {key k l : String} {x : Value} {before after : Entries}

theorem field?_of_returnKeys (spelled : k ∈ returnKeys)
    (once : ∀ key ∈ returnKeys, Value.field? key (before ++ after) = none) :
    Value.field? k (before ++ (.str k, x) :: after) = some x := by
  have none := once k spelled
  rw [Value.field?_append, Option.or_eq_none_iff] at none
  rw [Value.field?_append, none.1, Option.none_or, Value.field?_cons_self]

/-- The key of the return type is the one that is there. -/
theorem returnKey_eq (spelled : k ∈ returnKeys)
    (once : ∀ key ∈ returnKeys, Value.field? key (before ++ after) = none) :
    returnKey (before ++ (.str k, x) :: after) = k := by
  by_cases first : k = "return-type"
  · rw [returnKey, ← first, field?_of_returnKeys spelled once]
    rfl
  · have second : k = "return_type" := by simpa [returnKeys, first] using spelled
    rw [returnKey, Value.field?_append_of_ne first, once "return-type" (by decide), second]
    rfl

theorem strayKeys_returnKey (spelled : k ∈ returnKeys)
    (once : ∀ key ∈ returnKeys, Value.field? key (before ++ after) = none) :
    strayKeys ["name", k, "parameters", "modifiers", "annotations"]
        (before ++ (.str k, x) :: after) = [] ↔
      strayKeys ["name", "parameters", "modifiers", "annotations"] (before ++ after) = [] :=
  strayKeys_insert_eq_nil_iff (once k spelled) fun name => by simp [or_left_comm]

theorem check_respects : Respects Respelled check := by
  intro v w related
  cases related with
  | same => exact fun _ => .rfl
  | @key _ x k l before after left right spelled respelled once =>
      intro d
      have same : ∀ key, key ∉ returnKeys →
          Value.field? key (before ++ (.str k, x) :: after) =
            Value.field? key (before ++ (.str l, x) :: after) := by
        intro key other
        have notFirst : k ≠ key := fun same => other (same ▸ spelled)
        have notSecond : l ≠ key := fun same => other (same ▸ respelled)
        rw [Value.field?_append_of_ne notFirst, Value.field?_append_of_ne notSecond]
      have parameters : VariableDecl.checkParameters (before ++ (.str k, x) :: after) =
          VariableDecl.checkParameters (before ++ (.str l, x) :: after) :=
        optional_congr (same "parameters" (by decide))
      have modifiers : Modifier.checkAll (before ++ (.str k, x) :: after) =
          Modifier.checkAll (before ++ (.str l, x) :: after) :=
        optional_congr (same "modifiers" (by decide))
      have annotations : AnnotationUse.checkAll (before ++ (.str k, x) :: after) =
          AnnotationUse.checkAll (before ++ (.str l, x) :: after) :=
        optional_congr (same "annotations" (by decide))
      simp only [check_eq_pass_iff, left, right, Value.map.injEq, exists_eq_left',
        checkFields_eq_pass_iff, returnKey_eq spelled once, returnKey_eq respelled once,
        strayKeys_returnKey spelled once, strayKeys_returnKey respelled once,
        optional_iff_of_held (field?_of_returnKeys spelled once),
        optional_iff_of_held (field?_of_returnKeys respelled once),
        required_congr (same "name" (by decide)), parameters, modifiers, annotations]

end MethodDecl

theorem ClassDecl.check_respects : Respects Respelled check := by
  refine respects_closedRecord fun x y related before after d => ?_
  have same : ∀ key, key ≠ "methods" →
      Value.field? key (before ++ (.str "methods", x) :: after) =
        Value.field? key (before ++ (.str "methods", y) :: after) := by
    intro key other
    rw [Value.field?_append_of_ne other.symm, Value.field?_append_of_ne other.symm]
  have modifiers : Modifier.checkAll (before ++ (.str "methods", x) :: after) =
      Modifier.checkAll (before ++ (.str "methods", y) :: after) :=
    optional_congr (same "modifiers" (by decide))
  have annotations : AnnotationUse.checkAll (before ++ (.str "methods", x) :: after) =
      AnnotationUse.checkAll (before ++ (.str "methods", y) :: after) :=
    optional_congr (same "annotations" (by decide))
  rw [checkFields_eq_pass_iff, checkFields_eq_pass_iff, required_congr (same "name" (by decide)),
    optional_congr (same "kind" (by decide)), optional_congr (same "namespace" (by decide)),
    modifiers, annotations, optional_congr (same "supertypes" (by decide)),
    optional_congr (same "fields" (by decide)), optional_congr (same "constructors" (by decide)),
    optional_alike MethodDecl.check_respects.listOf related before after d.methods]

theorem Declarations.check_respects : Respects Respelled check := by
  refine respects_closedRecord fun x y related before after d => ?_
  rw [checkFields_eq_pass_iff, checkFields_eq_pass_iff]
  exact optional_alike ClassDecl.check_respects.listOf related before after d.classes

/-- What a document declares passes again when it is written out with every field, and gives the
same declarations. Two documents that differ at most in the keys of return types pass or fail
together, and declare the same. -/
theorem Declarations.check_stable :
    (∀ v d, check v = .pass d → check d.toValue = .pass d) ∧
    ∀ v w, Respelled v w → ∀ d, check v = .pass d ↔ check w = .pass d :=
  ⟨fun _ _ passed => check_toValue (valid_of_check passed), check_respects⟩

/-- A method that returns an array, in a class with much left to defaults. -/
theorem Declarations.check_stable_arrayReturned :
    let element : Value := .map [(.str "name", .str "int"), (.str "kind", .str "plain")]
    let array : Value := .map [(.str "kind", .str "array"), (.str "component_type", element)]
    let methods : String → Value := fun key =>
      .seq [.map [(.str "name", .str "f")], .map [(.str "name", .str "g"), (.str key, array)]]
    let classes : String → Value := fun key =>
      .seq [.map [(.str "name", .str "a.B"), (.str "methods", methods key)]]
    let document : String → Value := fun key => .map [(.str "classes", classes key)]
    ∃ d, check (document "return-type") = .pass d ∧ check (document "return_type") = .pass d ∧
      check d.toValue = .pass d ∧ Respelled (document "return-type") (document "return_type") := by
  intro element array methods classes document
  obtain ⟨again, spelling⟩ := check_stable
  have passed : check (document "return-type") = .pass ⟨[⟨"a.B", .plainClass, none, [], [], [], [],
      [], [⟨"f", .bare "void", [], [], []⟩, ⟨"g", .array (.bare "int") [], [], [], []⟩]⟩]⟩ := rfl
  have method : MethodDecl.Respelled
      (.map [(.str "name", .str "g"), (.str "return-type", array)])
      (.map [(.str "name", .str "g"), (.str "return_type", array)]) :=
    @MethodDecl.Respelled.key _ _ array _ _ [(.str "name", .str "g")] [] rfl rfl (by decide)
      (by decide) (by decide)
  have listed : DifferInItems MethodDecl.Respelled (methods "return-type")
      (methods "return_type") :=
    .items rfl rfl (.cons (.same _) (.cons method .nil))
  have one : ClassDecl.Respelled
      (.map [(.str "name", .str "a.B"), (.str "methods", methods "return-type")])
      (.map [(.str "name", .str "a.B"), (.str "methods", methods "return_type")]) :=
    @DifferUnder.entry _ _ _ _ _ _ [(.str "name", .str "a.B")] [] rfl rfl listed
  have respelled : Respelled (document "return-type") (document "return_type") :=
    @DifferUnder.entry _ _ _ _ _ _ [] [] rfl rfl (.items rfl rfl (.cons one .nil))
  exact ⟨_, passed, (spelling _ _ respelled _).mp passed, again _ _ passed, respelled⟩

end ClassAtlas
