import Mathlib.Data.List.Forall2
import ClassAtlas.Proofs.TranslationTrace

/-!
The shape of a translation. A target mirrors its source occurrence by occurrence: a class has as
many arguments in the same order, an array has its component, a wildcard its bound. Only an array of
bytes becomes a class of its own, and drops its component. What counts as a byte there is the name
and the null mark alone, so the arguments of a component of that name are dropped with it.
-/
namespace ClassAtlas

namespace Translator

/-- The class that an occurrence stands for, and the types that it is applied to. An array stands
for the class of arrays, applied to its component. -/
def application? (tr : Translator) : SourceType → Option (String × List SourceType)
  | .plain name _ => some (tr.table.rename name, [])
  | .parameterized name arguments _ => some (tr.table.rename name, arguments)
  | .array component _ => some (Renaming.targetArray, [component])
  | .wildcard .. => none

/-- An array of one component of the given kind. -/
def IsArrayOf (byte : TargetType → Prop) (name : String) (targets : List TargetType) : Prop :=
  name = Renaming.targetArray ∧ ∃ leaf, targets = [leaf] ∧ byte leaf

/-- A target of the shape of a source, but that arrays drop a component of the given kind. -/
inductive Mirrors (tr : Translator) (byte : TargetType → Prop) :
    SourceType → TargetType → Prop where
  | named {t : SourceType} {name : String} {arguments : List SourceType} {targets : List TargetType}
      {nullable : Bool} (of : tr.application? t = some (name, arguments))
      (each : List.Forall₂ (Mirrors tr byte) arguments targets)
      (kept : ¬ IsArrayOf byte name targets) : Mirrors tr byte t (.named name targets nullable)
  | byteArray {t component : SourceType} {leaf : TargetType} {nullable : Bool}
      (of : tr.application? t = some (Renaming.targetArray, [component]))
      (own : tr.target component = .ok leaf) (inner : Mirrors tr byte component leaf)
      (dropped : byte leaf) : Mirrors tr byte t (.named Renaming.targetByteArray [] nullable)
  | wildcard {variance : Variance} {bound : SourceType} {as : List AnnotationUse}
      {target : TargetType} (inner : Mirrors tr byte bound target) :
      Mirrors tr byte (.wildcard variance (some bound) as) (.projection variance target)

/-- An array of bytes that have arguments, which it drops. -/
def DropsArguments (tr : Translator) (o : SourceType) : Prop :=
  ∃ component arguments, tr.application? o = some (Renaming.targetArray, [component]) ∧
    tr.target component = .ok (.named Renaming.targetByte arguments false) ∧ arguments ≠ []

/-- An array of bytes that admit no null, which becomes a byte array. -/
def Collapses (tr : Translator) (o : SourceType) : Prop :=
  ∃ component arguments, tr.application? o = some (Renaming.targetArray, [component]) ∧
    tr.target component = .ok (.named Renaming.targetByte arguments false)

/-- At an occurrence, a kind of components is the one that is dropped there. -/
def AgreesOn (tr : Translator) (byte : TargetType → Prop) (o : SourceType) : Prop :=
  ∀ component leaf, tr.application? o = some (Renaming.targetArray, [component]) →
    tr.target component = .ok leaf → (byte leaf ↔ isPlainByte leaf = true)

variable {tr : Translator} {byte : TargetType → Prop}

theorem arrays_apart : Renaming.targetArray ≠ Renaming.targetByteArray := by decide

theorem isPlainByte_iff {leaf : TargetType} :
    isPlainByte leaf = true ↔ ∃ arguments, leaf = .named Renaming.targetByte arguments false := by
  cases leaf with
  | projection variance bound => simp [isPlainByte]
  | named name arguments nullable => simp [isPlainByte]

theorem applied_of_isArrayOf {name : String} {targets : List TargetType}
    (array : IsArrayOf (isPlainByte · = true) name targets) :
    applied name targets = .bare Renaming.targetByteArray := by
  obtain ⟨rfl, leaf, rfl, bytes⟩ := array
  exact if_pos ⟨rfl, bytes⟩

theorem applied_of_not_isArrayOf {name : String} {targets : List TargetType}
    (other : ¬ IsArrayOf (isPlainByte · = true) name targets) :
    applied name targets = .named name targets false := by
  match targets with
  | [] | _ :: _ :: _ => rfl
  | [leaf] => exact if_neg fun both => other ⟨both.1, leaf, rfl, both.2⟩

theorem marked_named (tr : Translator) (t : SourceType) (name : String)
    (targets : List TargetType) :
    tr.marked t (.named name targets false) = .named name targets (tr.isNullable t) := by
  rw [marked]
  cases tr.isNullable t <;> rfl

/-- An occurrence that stands for a class becomes that class, applied and marked. -/
theorem exists_targets_of_application? {t : SourceType} {name : String}
    {arguments : List SourceType} {target : TargetType}
    (of : tr.application? t = some (name, arguments))
    (done : (tr.translate t).outcome = .ok target) : ∃ targets,
      (tr.translateAll arguments).outcome = .ok targets ∧
        target = tr.marked t (applied name targets) := by
  cases t with
  | plain _ as =>
      cases of
      cases done
      exact ⟨[], rfl, rfl⟩
  | parameterized _ _ as =>
      cases of
      obtain ⟨targets, each, last⟩ := Traced.outcome_bind_eq_ok.mp done
      exact ⟨targets, each, (Except.ok.inj last).symm⟩
  | array component as =>
      cases of
      obtain ⟨inner, own, last⟩ := Traced.outcome_bind_eq_ok.mp done
      refine ⟨[inner], ?_, (Except.ok.inj last).symm⟩
      exact Traced.outcome_bind_eq_ok.mpr ⟨inner, own, rfl⟩
  | wildcard variance bound as => cases of

/-- Types translate together when each of them translates. -/
theorem translateAll_eq_ok_iff {ts : List SourceType} {targets : List TargetType} :
    (tr.translateAll ts).outcome = .ok targets ↔
      List.Forall₂ (fun t target => tr.target t = .ok target) ts targets := by
  induction ts generalizing targets with
  | nil =>
      rw [List.forall₂_nil_left_iff]
      exact ⟨fun done => (Except.ok.inj done).symm, fun same => same ▸ rfl⟩
  | cons t rest ih =>
      rw [translateAll, Traced.outcome_bind_eq_ok, List.forall₂_cons_left_iff]
      constructor
      · rintro ⟨target, own, more⟩
        obtain ⟨targets, others, last⟩ := Traced.outcome_bind_eq_ok.mp more
        cases last
        exact ⟨target, targets, own, ih.mp others, rfl⟩
      · rintro ⟨target, targets, own, others, rfl⟩
        exact ⟨target, own, Traced.outcome_bind_eq_ok.mpr ⟨targets, ih.mpr others, rfl⟩⟩

theorem translateAll_singleton_iff {t : SourceType} {targets : List TargetType} :
    (tr.translateAll [t]).outcome = .ok targets ↔
      ∃ target, tr.target t = .ok target ∧ targets = [target] := by
  simp only [translateAll_eq_ok_iff, List.forall₂_cons_left_iff, List.forall₂_nil_left_iff]
  constructor
  · rintro ⟨target, _, own, rfl, rfl⟩
    exact ⟨target, own, rfl⟩
  · rintro ⟨target, own, rfl⟩
    exact ⟨target, [], own, rfl, rfl⟩

theorem length_translateAll {ts : List SourceType} {targets : List TargetType}
    (done : (tr.translateAll ts).outcome = .ok targets) : ts.length = targets.length :=
  (translateAll_eq_ok_iff.mp done).length_eq

/-- An occurrence collapses when the class it stands for is an array of one byte. -/
theorem isArrayOf_iff_collapses {t : SourceType} {name : String} {arguments : List SourceType}
    {targets : List TargetType} (of : tr.application? t = some (name, arguments))
    (all : (tr.translateAll arguments).outcome = .ok targets) :
    IsArrayOf (isPlainByte · = true) name targets ↔ tr.Collapses t := by
  constructor
  · rintro ⟨rfl, leaf, rfl, plain⟩
    obtain ⟨component, rfl⟩ := List.length_eq_one_iff.mp (length_translateAll all)
    obtain ⟨_, own, same⟩ := translateAll_singleton_iff.mp all
    cases same
    obtain ⟨inner, rfl⟩ := isPlainByte_iff.mp plain
    exact ⟨component, inner, of, own⟩
  · rintro ⟨component, inner, of', own⟩
    cases of.symm.trans of'
    obtain ⟨leaf, own', rfl⟩ := translateAll_singleton_iff.mp all
    cases own.symm.trans own'
    exact ⟨rfl, _, rfl, isPlainByte_iff.mpr ⟨inner, rfl⟩⟩

/-- What becomes of an occurrence that stands for a class: the byte array where it collapses, and
else the class applied to the translated arguments. -/
theorem exists_named_of_application? {t : SourceType} {name : String} {arguments : List SourceType}
    {target : TargetType} (of : tr.application? t = some (name, arguments))
    (done : (tr.translate t).outcome = .ok target) : ∃ targets,
      (tr.translateAll arguments).outcome = .ok targets ∧
        (tr.Collapses t ∧ target = .named Renaming.targetByteArray [] (tr.isNullable t) ∨
          ¬ tr.Collapses t ∧ target = .named name targets (tr.isNullable t)) := by
  obtain ⟨targets, all, rfl⟩ := exists_targets_of_application? of done
  refine ⟨targets, all, ?_⟩
  rw [← isArrayOf_iff_collapses of all]
  by_cases array : IsArrayOf (isPlainByte · = true) name targets
  · exact .inl ⟨array, by rw [applied_of_isArrayOf array, TargetType.bare, marked_named]⟩
  · exact .inr ⟨array, by rw [applied_of_not_isArrayOf array, marked_named]⟩

theorem Mirrors.withNullable {t : SourceType} {target : TargetType} (nullable : Bool)
    (mirrors : tr.Mirrors byte t target) : tr.Mirrors byte t (target.withNullable nullable) := by
  cases mirrors with
  | named of each kept => exact .named of each kept
  | byteArray of own inner dropped => exact .byteArray of own inner dropped
  | wildcard inner => exact .wildcard inner

/-- Marks do not count for the shape. -/
theorem mirrors_withNullable_iff {t : SourceType} {target : TargetType} {nullable : Bool} :
    tr.Mirrors byte t (target.withNullable nullable) ↔ tr.Mirrors byte t target := by
  refine ⟨fun mirrors => ?_, Mirrors.withNullable nullable⟩
  have back := mirrors.withNullable target.isNullable
  cases target <;> exact back

theorem mirrors_boundOf_iff {t : SourceType} {target : TargetType} {variance : Variance} :
    tr.Mirrors byte t (boundOf variance target) ↔ tr.Mirrors byte t target := by
  cases variance with
  | producer => exact mirrors_withNullable_iff
  | consumer => exact Iff.rfl

theorem mirrors_projection_iff {variance : Variance} {bound : SourceType} {target : TargetType}
    {as : List AnnotationUse} :
    tr.Mirrors byte (.wildcard variance (some bound) as) (.projection variance target) ↔
      tr.Mirrors byte bound target := by
  refine ⟨fun mirrors => ?_, .wildcard⟩
  cases mirrors with
  | wildcard inner => exact inner

section Application

variable {t component : SourceType} {name : String} {arguments : List SourceType}
  {targets : List TargetType} {leaf : TargetType} {nullable : Bool}

theorem mirrors_byteArray_iff (of : tr.application? t = some (Renaming.targetArray, [component]))
    (own : tr.target component = .ok leaf) :
    tr.Mirrors byte t (.named Renaming.targetByteArray [] nullable) ↔
      tr.Mirrors byte component leaf ∧ byte leaf := by
  constructor
  · intro mirrors
    cases mirrors with
    | named of' each kept => exact absurd (of.symm.trans of') (by simp [arrays_apart])
    | byteArray of' own' inner dropped =>
        cases of.symm.trans of'
        cases own.symm.trans own'
        exact ⟨inner, dropped⟩
  · rintro ⟨inner, dropped⟩
    exact .byteArray of own inner dropped

theorem mirrors_named_iff (of : tr.application? t = some (name, arguments)) :
    tr.Mirrors byte t (.named name targets nullable) ↔
      List.Forall₂ (tr.Mirrors byte) arguments targets ∧ ¬ IsArrayOf byte name targets := by
  constructor
  · intro mirrors
    cases mirrors with
    | named of' each kept =>
        cases of.symm.trans of'
        exact ⟨each, kept⟩
    | byteArray of' own inner dropped =>
        exact absurd (of'.symm.trans of) (by simp [arrays_apart])
  · rintro ⟨each, kept⟩
    exact .named of each kept

/-- A class mirrors an occurrence when its arguments mirror those of the occurrence and the kind of
components agrees there. -/
theorem mirrors_applied_iff (of : tr.application? t = some (name, arguments))
    (all : (tr.translateAll arguments).outcome = .ok targets) :
    tr.Mirrors byte t (tr.marked t (applied name targets)) ↔
      List.Forall₂ (tr.Mirrors byte) arguments targets ∧ tr.AgreesOn byte t := by
  by_cases bytes : IsArrayOf (isPlainByte · = true) name targets
  · rw [applied_of_isArrayOf bytes]
    obtain ⟨rfl, leaf, rfl, plain⟩ := bytes
    obtain ⟨component, rfl⟩ := List.length_eq_one_iff.mp (length_translateAll all)
    obtain ⟨_, own, same⟩ := translateAll_singleton_iff.mp all
    cases same
    rw [TargetType.bare, marked_named, mirrors_byteArray_iff of own, List.forall₂_cons]
    refine ⟨fun ⟨inner, dropped⟩ => ⟨⟨inner, .nil⟩, ?_⟩, fun ⟨each, agrees⟩ => ⟨each.1, ?_⟩⟩
    · intro component' leaf' of' own'
      cases of.symm.trans of'
      cases own.symm.trans own'
      exact ⟨fun _ => plain, fun _ => dropped⟩
    · exact (agrees component leaf of own).mpr plain
  · rw [applied_of_not_isArrayOf bytes]
    rw [marked_named, mirrors_named_iff of]
    refine and_congr_right fun each => ?_
    constructor
    · intro kept component leaf of' own
      cases of.symm.trans of'
      obtain ⟨_, own', rfl⟩ := translateAll_singleton_iff.mp all
      cases own.symm.trans own'
      have none : ¬ isPlainByte leaf = true := fun plain => bytes ⟨rfl, leaf, rfl, plain⟩
      exact ⟨fun is => absurd ⟨rfl, leaf, rfl, is⟩ kept, fun plain => absurd plain none⟩
    · rintro agrees ⟨rfl, leaf, rfl, is⟩
      obtain ⟨component, rfl⟩ := List.length_eq_one_iff.mp (length_translateAll all)
      obtain ⟨_, own, same⟩ := translateAll_singleton_iff.mp all
      cases same
      exact bytes ⟨rfl, leaf, rfl, (agrees component leaf of own).mp is⟩

end Application

/-- A byte without arguments is what is dropped unless arguments are dropped with it. -/
theorem agreesOn_bare_iff {o : SourceType} :
    tr.AgreesOn (· = .bare Renaming.targetByte) o ↔ ¬ tr.DropsArguments o := by
  constructor
  · rintro agrees ⟨component, arguments, of, own, some⟩
    have bare := (agrees component _ of own).mpr (isPlainByte_iff.mpr ⟨arguments, rfl⟩)
    cases bare
    exact some rfl
  · intro none component leaf of own
    rw [isPlainByte_iff]
    constructor
    · rintro rfl
      exact ⟨[], rfl⟩
    · rintro ⟨arguments, rfl⟩
      by_contra other
      refine none ⟨component, arguments, of, own, ?_⟩
      rintro rfl
      exact other rfl

theorem agreesOn_wildcard (variance : Variance) (bound : Option SourceType)
    (as : List AnnotationUse) : tr.AgreesOn byte (.wildcard variance bound as) :=
  fun _ _ of => nomatch of

mutual

/-- A translation mirrors its source exactly when the kind of components is everywhere the one that
is dropped. -/
theorem mirrors_iff : {t : SourceType} → {target : TargetType} →
    (tr.translate t).outcome = .ok target →
      (tr.Mirrors byte t target ↔ ∀ o ∈ t.occurrences, tr.AgreesOn byte o)
  | .plain name as, _, done => by
      obtain ⟨targets, all, rfl⟩ := exists_targets_of_application? rfl done
      rw [mirrors_applied_iff rfl all]
      cases all
      simp [SourceType.occurrences]
  | .parameterized name arguments as, _, done => by
      obtain ⟨targets, all, rfl⟩ := exists_targets_of_application? rfl done
      rw [mirrors_applied_iff rfl all, forall₂_mirrors_iff all]
      simp [SourceType.occurrences, or_imp, forall_and]
  | .array component as, _, done => by
      obtain ⟨targets, all, rfl⟩ := exists_targets_of_application? rfl done
      rw [mirrors_applied_iff rfl all]
      obtain ⟨inner, own, rfl⟩ := translateAll_singleton_iff.mp all
      rw [List.forall₂_cons, mirrors_iff own]
      simp [SourceType.occurrences, or_imp, forall_and]
  | .wildcard variance none as, _, done => by cases done
  | .wildcard variance (some bound) as, _, done => by
      obtain ⟨target, own, last⟩ := Traced.outcome_bind_eq_ok.mp done
      obtain ⟨_, rfl⟩ := outcome_projected_eq_ok_iff.mp last
      rw [mirrors_projection_iff, mirrors_boundOf_iff, mirrors_iff own]
      simp [SourceType.occurrences, or_imp, forall_and, agreesOn_wildcard]

theorem forall₂_mirrors_iff : {ts : List SourceType} → {targets : List TargetType} →
    (tr.translateAll ts).outcome = .ok targets →
      (List.Forall₂ (tr.Mirrors byte) ts targets ↔
        ∀ o ∈ SourceType.occurrencesOfAll ts, tr.AgreesOn byte o)
  | [], _, done => by
      cases done
      simp [SourceType.occurrencesOfAll]
  | t :: rest, _, done => by
      obtain ⟨target, own, more⟩ := Traced.outcome_bind_eq_ok.mp done
      obtain ⟨targets, others, last⟩ := Traced.outcome_bind_eq_ok.mp more
      cases last
      rw [List.forall₂_cons, mirrors_iff own, forall₂_mirrors_iff others]
      simp [SourceType.occurrencesOfAll, or_imp, forall_and]

end

/-- A type that translates has a target of its own shape. An array whose component becomes a byte
that admits no null is a byte array instead, and what it drops is that byte with the arguments it
has. The byte dropped is without arguments everywhere exactly when no array of the type has a
component that becomes a byte with arguments. -/
theorem target_mirrors_source (tr : Translator) (t : SourceType) (target : TargetType)
    (done : tr.target t = .ok target) :
    tr.Mirrors (fun leaf => ∃ arguments, leaf = .named Renaming.targetByte arguments false) t
      target ∧
    (tr.Mirrors (· = .bare Renaming.targetByte) t target ↔
      ∀ o ∈ t.occurrences, ¬ tr.DropsArguments o) := by
  constructor
  · refine (mirrors_iff done).mpr fun o _ component leaf _ _ => ?_
    exact isPlainByte_iff.symm
  · rw [mirrors_iff done]
    exact forall₂_congr fun o _ => agreesOn_bare_iff

/-- The standard names, with further ones, and no declarations. -/
def ofRenamed (renamed : List (String × String)) : Translator :=
  ⟨.ofDeclarations ⟨[]⟩ false, Renaming.standard.extend renamed, [standardMarker]⟩

theorem target_mirrors_source_listOfByteArrays :
    let tr := ofRenamed []
    let bytes : SourceType := .array (.bare "byte") []
    let t : SourceType := .parameterized "java.util.List" [.wildcard .producer (some bytes) []] []
    let target : TargetType := .named "kotlin.collections.List"
      [.projection .producer (.named "kotlin.ByteArray" [] true)] false
    tr.target t = .ok target ∧ (∀ o ∈ t.occurrences, ¬ tr.DropsArguments o) ∧
      tr.Mirrors (· = .bare Renaming.targetByte) t target := by
  intro tr bytes t target
  have done : tr.target t = .ok target := rfl
  have none : ∀ o ∈ t.occurrences, ¬ tr.DropsArguments o := by
    rintro o mem ⟨component, arguments, of, own, dropped⟩
    have named : (tr.application? o).map Prod.fst = some Renaming.targetArray :=
      congrArg (Option.map Prod.fst) of
    have inside :
        o = .bare "byte" ∨ o = bytes ∨ o = .wildcard .producer (some bytes) [] ∨ o = t := by
      simpa [t, bytes, SourceType.occurrences, SourceType.occurrencesOfAll, SourceType.bare]
        using mem
    rcases inside with rfl | rfl | rfl | rfl
    · exact absurd named (by decide)
    · cases of
      cases own
      exact dropped rfl
    · cases of
    · exact absurd named (by decide)
  exact ⟨done, none, (target_mirrors_source tr t target done).2.mpr none⟩

/-- An array of octets of integers becomes a byte array where octets are renamed to bytes: the
integers are lost. -/
theorem byteArray_loses_arguments :
    let tr := ofRenamed [("a.Octet", Renaming.targetByte)]
    let octet : SourceType := .parameterized "a.Octet" [.bare "int"] []
    tr.target octet = .ok (.named Renaming.targetByte [.bare "kotlin.Int"] false) ∧
      tr.target (.array octet []) = .ok (.bare Renaming.targetByteArray) ∧
      ¬ tr.Mirrors (· = .bare Renaming.targetByte) (.array octet [])
        (.bare Renaming.targetByteArray) := by
  intro tr octet
  have own : tr.target octet = .ok (.named Renaming.targetByte [.bare "kotlin.Int"] false) := rfl
  refine ⟨own, rfl, fun mirrors => ?_⟩
  have leaf := ((mirrors_byteArray_iff rfl own).mp mirrors).2
  cases leaf

end Translator
end ClassAtlas
