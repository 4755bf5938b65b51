import ClassAtlas.Proofs.PropertyNullability

/-!
The arguments of the type of a property, as the source type has them and as the translated type has
them. Translation takes the arguments of a class one by one, so that both views agree at each index.
Two encodings part them: an array has no argument in the source and gets its component for one, and
an array of bytes that is written as a class with an argument loses that.
-/
namespace ClassAtlas

/-- A list of one item has it at index zero alone. -/
theorem getElem?_singleton_toNat {α : Type} (x : α) (i : Int) :
    (if i < 0 then none else [x][i.toNat]?) = if i = 0 then some x else none := by
  rw [List.getElem?_singleton]
  grind

namespace SourceType

def IsArray (t : SourceType) : Prop := ∃ component as, t = .array component as

/-- What the class that an occurrence stands for is applied to. -/
def applied : SourceType → List SourceType
  | .array component _ => [component]
  | t => t.arguments

variable {t : SourceType}

theorem applied_of_not_isArray (other : ¬ t.IsArray) : t.applied = t.arguments := by
  cases t with
  | array component as => exact absurd ⟨component, as, rfl⟩ other
  | plain | parameterized | wildcard => rfl

theorem argument?_of_isArray (array : t.IsArray) (i : Int) : t.argument? i = none := by
  obtain ⟨component, as, rfl⟩ := array
  exact ite_self none

theorem argument?_of_arguments_eq_singleton {u : SourceType} (one : t.arguments = [u]) (i : Int) :
    t.argument? i = if i = 0 then some u else none := by
  rw [argument?, one, getElem?_singleton_toNat]

end SourceType

namespace TargetType

theorem arguments_withNullable (t : TargetType) (nullable : Bool) :
    (t.withNullable nullable).arguments = t.arguments := by
  cases t <;> rfl

theorem argument?_of_arguments_eq_nil {t : TargetType} (bare : t.arguments = []) (i : Int) :
    t.argument? i = none := by
  rw [argument?, bare]
  exact ite_self none

theorem argument?_of_arguments_eq_singleton {t u : TargetType} (one : t.arguments = [u]) (i : Int) :
    t.argument? i = if i = 0 then some u else none := by
  rw [argument?, one, getElem?_singleton_toNat]

end TargetType

/-- Arguments that correspond do so at each index, also at one that lies outside. -/
theorem rel_argument? {R : SourceType → TargetType → Prop} {t : SourceType} {target : TargetType}
    (each : List.Forall₂ R t.arguments target.arguments) (i : Int) :
    Option.Rel R (t.argument? i) (target.argument? i) := by
  rw [SourceType.argument?, TargetType.argument?]
  split
  case isTrue => exact .none
  case isFalse => exact rel_getElem?_of_forall₂ each i.toNat

namespace Translator

variable {tr : Translator} {t : SourceType} {target : TargetType}

theorem applied_of_application? {name : String} {arguments : List SourceType}
    (of : tr.application? t = some (name, arguments)) : t.applied = arguments := by
  cases t with
  | wildcard => cases of
  | plain | parameterized | array =>
      cases of
      rfl

/-- A byte array has no arguments. -/
theorem arguments_of_collapses (done : tr.target t = .ok target) (collapses : tr.Collapses t) :
    target.arguments = [] := by
  have ⟨component, inner, of, _⟩ := collapses
  obtain ⟨targets, _, ⟨_, rfl⟩ | ⟨kept, _⟩⟩ := exists_named_of_application? of done
  · rfl
  · exact absurd collapses kept

/-- Any other type has the translations of what its source is applied to. -/
theorem forall₂_arguments (done : tr.target t = .ok target) (kept : ¬ tr.Collapses t) :
    List.Forall₂ (fun a u => tr.target a = .ok u) t.applied target.arguments := by
  cases of : tr.application? t with
  | none =>
      cases t with
      | wildcard =>
          have projection := isProjection_of_translate done
          cases target with
          | projection => exact .nil
          | named => cases projection
      | plain | parameterized | array => cases of
  | some _ =>
      obtain ⟨targets, all, ⟨collapses, _⟩ | ⟨_, rfl⟩⟩ := exists_named_of_application? of done
      · exact absurd collapses kept
      · rw [applied_of_application? of]
        exact translateAll_eq_ok_iff.mp all

end Translator

namespace Property

variable {tr : Translator} {p : Property} {target : TargetType}

/-- Both views of the argument at an index agree: there is a translated argument exactly when the
source type has one, and it is the translation of that and the type of the reflected argument. -/
def ViewsAgree (p : Property) (tr : Translator) (i : Int) : Prop :=
  ∃ seen, (p.argumentType? tr i).outcome = .ok seen ∧
    Option.Rel (fun a u => tr.target a = .ok u) (p.argumentSource? i) seen ∧
    Option.Rel (fun r u => (r.type tr).outcome = .ok u) (p.reflected.argument? i) seen

theorem outcome_argumentType? (done : (p.type tr).outcome = .ok target) (i : Int) :
    (p.argumentType? tr i).outcome = .ok (target.argument? i) := by
  rw [argumentType?, Traced.bind_of_ok done]
  rfl

/-- The mark that its elements give the type of a property leaves its arguments as they are. -/
theorem exists_target_of_type (done : (p.type tr).outcome = .ok target) :
    ∃ own, tr.target p.source = .ok own ∧ target.arguments = own.arguments := by
  rw [outcome_type] at done
  cases translated : (tr.translate p.source).outcome with
  | error e =>
      rw [translated] at done
      cases done
  | ok own =>
      rw [translated] at done
      refine ⟨own, translated, ?_⟩
      cases done
      cases p.isDeclaredNullable tr with
      | true => exact own.arguments_withNullable true
      | false => rfl

theorem reflected_argument? (p : Property) (i : Int) :
    p.reflected.argument? i = (p.argumentSource? i).map ReflectedType.mk := rfl

theorem rel_reflected_argument? {seen : Option TargetType} {i : Int}
    (agree : Option.Rel (fun a u => tr.target a = .ok u) (p.argumentSource? i) seen) :
    Option.Rel (fun r u => (r.type tr).outcome = .ok u) (p.reflected.argument? i) seen := by
  rw [reflected_argument?]
  generalize p.argumentSource? i = raw at agree ⊢
  cases agree with
  | none => exact .none
  | some same => exact .some same

theorem ViewsAgree.isSome_eq {seen : Option TargetType} {i : Int} (agree : p.ViewsAgree tr i)
    (shown : (p.argumentType? tr i).outcome = .ok seen) :
    (p.argumentSource? i).isSome = seen.isSome := by
  obtain ⟨_, done, raw, _⟩ := agree
  cases done.symm.trans shown
  generalize p.argumentSource? i = argument at raw
  cases raw <;> rfl

theorem viewsAgree_of_rel {seen : Option TargetType} {i : Int}
    (done : (p.argumentType? tr i).outcome = .ok seen)
    (agree : Option.Rel (fun a u => tr.target a = .ok u) (p.argumentSource? i) seen) :
    p.ViewsAgree tr i :=
  ⟨seen, done, agree, rel_reflected_argument? agree⟩

/-- A byte array shows no argument in its translation. -/
theorem argumentType?_of_collapses (done : (p.type tr).outcome = .ok target)
    (collapses : tr.Collapses p.source) (i : Int) :
    (p.argumentType? tr i).outcome = .ok none := by
  obtain ⟨own, translated, same⟩ := exists_target_of_type done
  have bare := same.trans (Translator.arguments_of_collapses translated collapses)
  rw [outcome_argumentType? done, TargetType.argument?_of_arguments_eq_nil bare]

/-- Any other type shows the translations of what its source is applied to. -/
theorem forall₂_arguments_of_type (done : (p.type tr).outcome = .ok target)
    (kept : ¬ tr.Collapses p.source) :
    List.Forall₂ (fun a u => tr.target a = .ok u) p.source.applied target.arguments := by
  obtain ⟨own, translated, same⟩ := exists_target_of_type done
  rw [same]
  exact Translator.forall₂_arguments translated kept

/-- The views agree on an array when it becomes a byte array, and on any other type when it does not
become one. -/
theorem viewsAgree (done : (p.type tr).outcome = .ok target)
    (alike : p.source.IsArray ↔ tr.Collapses p.source) (i : Int) : p.ViewsAgree tr i := by
  by_cases collapses : tr.Collapses p.source
  · refine viewsAgree_of_rel (argumentType?_of_collapses done collapses i) ?_
    rw [argumentSource?, SourceType.argument?_of_isArray (alike.mpr collapses)]
    exact .none
  · refine viewsAgree_of_rel (outcome_argumentType? done i) ?_
    have each := forall₂_arguments_of_type done collapses
    rw [SourceType.applied_of_not_isArray (mt alike.mp collapses)] at each
    exact rel_argument? each i

/-- An array that is no byte array shows its component in its translation alone. -/
theorem argumentType?_of_isArray {component : SourceType} {as : List AnnotationUse}
    (done : (p.type tr).outcome = .ok target) (array : p.source = .array component as)
    (kept : ¬ tr.Collapses p.source) : ∃ u, tr.target component = .ok u ∧
      ∀ i, (p.argumentType? tr i).outcome = .ok (if i = 0 then some u else none) := by
  have each := forall₂_arguments_of_type done kept
  rw [array, SourceType.applied, List.forall₂_cons_left_iff] at each
  obtain ⟨u, _, inner, rest, one⟩ := each
  cases rest
  refine ⟨u, inner, fun i => ?_⟩
  rw [outcome_argumentType? done, TargetType.argument?_of_arguments_eq_singleton one]

/-- A type other than an array that becomes a byte array is written as applied to one component. -/
theorem argumentSource?_of_collapses (other : ¬ p.source.IsArray)
    (collapses : tr.Collapses p.source) : ∃ component,
      ∀ i, p.argumentSource? i = if i = 0 then some component else none := by
  obtain ⟨component, inner, of, _⟩ := collapses
  refine ⟨component, fun i => SourceType.argument?_of_arguments_eq_singleton ?_ i⟩
  rw [← SourceType.applied_of_not_isArray other]
  exact Translator.applied_of_application? of

/-- The views of the arguments of a property agree at every index exactly when its type is an array
that becomes a byte array, or neither. Any other array shows its component in translation alone, at
index zero; any other type that becomes a byte array shows its one argument in the source alone. -/
theorem argument_views (p : Property) (tr : Translator) (target : TargetType)
    (done : (p.type tr).outcome = .ok target) :
    ((∀ i, p.ViewsAgree tr i) ↔ (p.source.IsArray ↔ tr.Collapses p.source)) ∧
    (¬ tr.Collapses p.source → ∀ component as, p.source = .array component as →
      ∃ u, tr.target component = .ok u ∧ ∀ i,
        p.argumentSource? i = none ∧ p.reflected.argument? i = none ∧
          (p.argumentType? tr i).outcome = .ok (if i = 0 then some u else none)) ∧
    (tr.Collapses p.source → ¬ p.source.IsArray → ∃ component, ∀ i,
        p.argumentSource? i = (if i = 0 then some component else none) ∧
          (p.argumentType? tr i).outcome = .ok none) := by
  refine ⟨⟨fun agree => ?_, viewsAgree done⟩, ?_, ?_⟩
  · constructor
    · rintro ⟨component, as, array⟩
      by_contra kept
      obtain ⟨u, _, only⟩ := argumentType?_of_isArray done array kept
      have both := (agree 0).isSome_eq (only 0)
      rw [argumentSource?, SourceType.argument?_of_isArray ⟨component, as, array⟩] at both
      cases both
    · intro collapses
      by_contra other
      obtain ⟨component, only⟩ := argumentSource?_of_collapses other collapses
      have both := (agree 0).isSome_eq (argumentType?_of_collapses done collapses 0)
      rw [only 0] at both
      cases both
  · intro kept component as array
    obtain ⟨u, inner, only⟩ := argumentType?_of_isArray done array kept
    have absent := SourceType.argument?_of_isArray ⟨component, as, array⟩
    refine ⟨u, inner, fun i => ⟨absent i, ?_, only i⟩⟩
    rw [reflected_argument?, argumentSource?, absent, Option.map_none]
  · intro collapses other
    obtain ⟨component, only⟩ := argumentSource?_of_collapses other collapses
    exact ⟨component, fun i => ⟨only i, argumentType?_of_collapses done collapses i⟩⟩

end Property

/-- A class with a map, an array and an array of bytes written as a class with an argument. -/
def shelf : ClassDecl where
  name := "a.Shelf"
  kind := .plainClass
  givenNamespace := none
  modifiers := []
  annotations := []
  supertypes := []
  fields := [
    ⟨"pages", .parameterized "java.util.Map"
      [.bare "java.lang.String", .array (.bare "byte") []] [], [], []⟩,
    ⟨"names", .array (.bare "java.lang.String") [], [], []⟩,
    ⟨"octets", .parameterized "kotlin.Array" [.bare "byte"] [], [], []⟩]
  constructors := []
  methods := []

namespace Property

theorem argument_views_shelf :
    let tr : Translator :=
      ⟨.ofDeclarations ⟨[shelf]⟩ false, .standard, [Translator.standardMarker]⟩
    let e : Element := .type (.ofDecl 0 shelf)
    ∃ pages names octets, e.properties [] = [pages, names, octets] ∧
      (pages.argumentType? tr 1).outcome = .ok (some (.bare "kotlin.ByteArray")) ∧
      (∀ i, pages.ViewsAgree tr i) ∧
      (∃ u, tr.target (.bare "java.lang.String") = .ok u ∧ ∀ i,
        names.argumentSource? i = none ∧ names.reflected.argument? i = none ∧
          (names.argumentType? tr i).outcome = .ok (if i = 0 then some u else none)) ∧
      ∃ component, ∀ i,
        octets.argumentSource? i = (if i = 0 then some component else none) ∧
          (octets.argumentType? tr i).outcome = .ok none := by
  intro tr e
  refine ⟨_, _, _, rfl, rfl, ?_, ?_, ?_⟩
  · refine (argument_views _ tr _ rfl).1.mpr (iff_of_false ?_ ?_)
    · rintro ⟨component, as, array⟩
      cases array
    · rintro ⟨component, inner, of, _⟩
      have named : "kotlin.collections.Map" = Renaming.targetArray :=
        congrArg Prod.fst (Option.some.inj of)
      exact absurd named (by decide)
  · refine (argument_views _ tr _ rfl).2.1 ?_ _ [] rfl
    rintro ⟨component, inner, of, own⟩
    cases of
    have named : "kotlin.String" = Renaming.targetByte :=
      (TargetType.named.inj (Except.ok.inj own)).1
    exact absurd named (by decide)
  · refine (argument_views _ tr _ rfl).2.2 ⟨.bare "byte", [], rfl, rfl⟩ ?_
    rintro ⟨component, as, array⟩
    cases array

/-- The component of an array is seen in translation alone, and the byte of an array that is written
as a class in the source alone. -/
theorem views_part_on_shelf :
    let tr : Translator :=
      ⟨.ofDeclarations ⟨[shelf]⟩ false, .standard, [Translator.standardMarker]⟩
    let e : Element := .type (.ofDecl 0 shelf)
    ∃ pages names octets, e.properties [] = [pages, names, octets] ∧
      (names.type tr).outcome = .ok (.named "kotlin.Array" [.bare "kotlin.String"] false) ∧
      ¬ names.ViewsAgree tr 0 ∧
      (octets.type tr).outcome = .ok (.bare "kotlin.ByteArray") ∧
      ¬ octets.ViewsAgree tr 0 := by
  intro tr e
  refine ⟨_, _, _, rfl, rfl, fun agree => ?_, rfl, fun agree => ?_⟩
  · have both :
        (none : Option SourceType).isSome = (some (TargetType.bare "kotlin.String")).isSome :=
      agree.isSome_eq rfl
    cases both
  · have both : (some (SourceType.bare "byte")).isSome = (none : Option TargetType).isSome :=
      agree.isSome_eq rfl
    cases both

end Property
end ClassAtlas
