import ClassAtlas.Generator.Basic
import ClassAtlas.Proofs.TranslationTrace

/-!
Types under their source names. A translation under a table is the type under its source names with
every name renamed and then every array of bytes collapsed, provided that the table leaves alone the
names that byte arrays are made of. Null marks and variances are the same in both.
-/
namespace ClassAtlas

namespace TargetType

mutual

/-- A type with every class name looked up in a table. -/
def renamed (table : Renaming) : TargetType → TargetType
  | .named name arguments nullable =>
      .named (table.rename name) (renamedAll table arguments) nullable
  | .projection variance bound => .projection variance (renamed table bound)

def renamedAll (table : Renaming) : List TargetType → List TargetType
  | [] => []
  | t :: rest => renamed table t :: renamedAll table rest

end

/-- A class of the name of bytes that admits no null, whatever its arguments. -/
def isByte : TargetType → Bool
  | .named name _ false => name == Renaming.targetByte
  | .named _ _ true | .projection .. => false

/-- The byte array in the place of an array of bytes. -/
def byteArrayFor : TargetType → TargetType
  | .named name [argument] nullable =>
      if name = Renaming.targetArray ∧ argument.isByte then
        .named Renaming.targetByteArray [] nullable
      else .named name [argument] nullable
  | t => t

mutual

/-- A type with every array of bytes collapsed, the innermost first. -/
def collapsed : TargetType → TargetType
  | .named name arguments nullable => byteArrayFor (.named name (collapsedAll arguments) nullable)
  | .projection variance bound => .projection variance (collapsed bound)

def collapsedAll : List TargetType → List TargetType
  | [] => []
  | t :: rest => collapsed t :: collapsedAll rest

end

def variance? : TargetType → Option Variance
  | .named .. => none
  | .projection variance _ => some variance

theorem isProjection_eq (t : TargetType) : t.isProjection = t.variance?.isSome := by
  cases t <;> rfl

/-- The arguments of a class, and the bound of a projection. -/
def parts : TargetType → List TargetType
  | .named _ arguments _ => arguments
  | .projection _ bound => [bound]

/-- The type at a path of positions, each among the parts of the type before. -/
def part? : List Nat → TargetType → Option TargetType
  | [], t => some t
  | i :: path, t => t.parts[i]?.bind (part? path)

theorem renamedAll_eq_map (table : Renaming) (ts : List TargetType) :
    renamedAll table ts = ts.map (renamed table) := by
  induction ts with
  | nil => rfl
  | cons t rest ih => rw [renamedAll, ih, List.map_cons]

theorem collapsedAll_eq_map (ts : List TargetType) : collapsedAll ts = ts.map collapsed := by
  induction ts with
  | nil => rfl
  | cons t rest ih => rw [collapsedAll, ih, List.map_cons]

theorem isByte_eq_isPlainByte (t : TargetType) : t.isByte = Translator.isPlainByte t := by
  cases t with
  | projection variance bound => rfl
  | named name arguments nullable => cases nullable <;> simp [isByte, Translator.isPlainByte]

theorem byteArrayFor_withNullable (nullable : Bool) (t : TargetType) :
    byteArrayFor (t.withNullable nullable) = (byteArrayFor t).withNullable nullable := by
  match t with
  | .projection .. | .named _ [] _ | .named _ (_ :: _ :: _) _ => rfl
  | .named name [argument] own =>
      rw [withNullable, byteArrayFor, byteArrayFor]
      split <;> rfl

theorem parts_byteArrayFor (t : TargetType) :
    (byteArrayFor t).parts = [] ∨ (byteArrayFor t).parts = t.parts := by
  fun_cases byteArrayFor t with
  | case1 => exact .inl rfl
  | case2 | case3 => exact .inr rfl

theorem isNullable_byteArrayFor (t : TargetType) : (byteArrayFor t).isNullable = t.isNullable := by
  fun_cases byteArrayFor t <;> rfl

theorem variance?_byteArrayFor (t : TargetType) : (byteArrayFor t).variance? = t.variance? := by
  fun_cases byteArrayFor t <;> rfl

theorem renamed_withNullable (table : Renaming) (nullable : Bool) (t : TargetType) :
    (t.withNullable nullable).renamed table = (t.renamed table).withNullable nullable := by
  cases t <;> rfl

theorem collapsed_withNullable (nullable : Bool) (t : TargetType) :
    (t.withNullable nullable).collapsed = t.collapsed.withNullable nullable := by
  cases t with
  | projection variance bound => rfl
  | named name arguments own => exact byteArrayFor_withNullable nullable (.named name _ own)

section Parts

variable (table : Renaming) (t : TargetType)

theorem parts_renamed : (t.renamed table).parts = t.parts.map (renamed table) := by
  cases t with
  | named name arguments nullable => exact renamedAll_eq_map table arguments
  | projection variance bound => rfl

theorem isNullable_renamed : (t.renamed table).isNullable = t.isNullable := by
  cases t <;> rfl

theorem variance?_renamed : (t.renamed table).variance? = t.variance? := by
  cases t <;> rfl

theorem parts_collapsed : t.collapsed.parts = [] ∨ t.collapsed.parts = t.parts.map collapsed := by
  cases t with
  | named name arguments nullable =>
      rw [collapsed, collapsedAll_eq_map]
      exact parts_byteArrayFor _
  | projection variance bound => exact .inr rfl

theorem isNullable_collapsed : t.collapsed.isNullable = t.isNullable := by
  cases t with
  | named name arguments nullable => exact isNullable_byteArrayFor _
  | projection variance bound => rfl

theorem variance?_collapsed : t.collapsed.variance? = t.variance? := by
  cases t with
  | named name arguments nullable => exact variance?_byteArrayFor _
  | projection variance bound => rfl

end Parts

/-- What stands somewhere after renaming and collapsing comes from what stood there before. -/
theorem exists_part?_of_collapsed_renamed {table : Renaming} {path : List Nat} {t b : TargetType}
    (there : (t.renamed table).collapsed.part? path = some b) :
    ∃ a, t.part? path = some a ∧ b = (a.renamed table).collapsed := by
  induction path generalizing t with
  | nil => exact ⟨t, rfl, (Option.some.inj there).symm⟩
  | cons i path ih =>
      rw [part?] at there
      obtain ⟨part, listed, there⟩ := Option.bind_eq_some_iff.mp there
      rcases parts_collapsed (t.renamed table) with none | kept
      · rw [none] at listed
        cases listed
      · rw [kept, parts_renamed, List.map_map, List.getElem?_map] at listed
        obtain ⟨own, found, rfl⟩ := Option.map_eq_some_iff.mp listed
        obtain ⟨a, below, same⟩ := ih there
        exact ⟨a, by rw [part?, found]; exact below, same⟩

end TargetType

/-- A table in which the names of arrays, bytes and byte arrays stand for themselves. -/
structure Renaming.KeepsByteArrays (table : Renaming) : Prop where
  array : table.rename targetArray = targetArray
  byte : table.rename targetByte = targetByte
  byteArray : table.rename targetByteArray = targetByteArray

theorem Renaming.keepsByteArrays_extend {extra : List (String × String)}
    (absent : ∀ entry ∈ extra, entry.1 ∉ [targetArray, targetByte, targetByteArray]) :
    (standard.extend extra).KeepsByteArrays := by
  have kept (name : String) (special : name ∈ [targetArray, targetByte, targetByteArray]) :
      (standard.extend extra).rename name = standard.rename name := by
    refine rename_extend_of_absent (fun entry mem same => ?_) standard
    exact absent entry mem (same ▸ special)
  refine ⟨?_, ?_, ?_⟩
  · rw [kept targetArray (by simp)]
    decide
  · rw [kept targetByte (by simp)]
    decide
  · rw [kept targetByteArray (by simp)]
    decide

namespace Translator

open TargetType

variable {tr : Translator}

theorem applied_eq_byteArrayFor (name : String) (arguments : List TargetType) :
    applied name arguments = byteArrayFor (.named name arguments false) := by
  match arguments with
  | [] | _ :: _ :: _ => rfl
  | [argument] =>
      rw [applied, byteArrayFor, isByte_eq_isPlainByte]
      rfl

theorem collapsed_renamed_named (table : Renaming) (name : String) (arguments : List TargetType) :
    ((TargetType.named name arguments false).renamed table).collapsed =
      applied (table.rename name) (arguments.map fun t => (t.renamed table).collapsed) := by
  rw [applied_eq_byteArrayFor, renamed, collapsed, collapsedAll_eq_map, renamedAll_eq_map,
    List.map_map]
  rfl

theorem isPlainByte_collapsed_renamed {table : Renaming} (keeps : table.KeepsByteArrays)
    {t : TargetType} (byte : isPlainByte t = true) :
    isPlainByte (t.renamed table).collapsed = true := by
  cases t with
  | projection variance bound => cases byte
  | named name arguments nullable =>
      obtain ⟨rfl, rfl⟩ : name = Renaming.targetByte ∧ nullable = false := by
        simpa [isPlainByte] using byte
      have other : ¬ (Renaming.targetByte = Renaming.targetArray) := by decide
      rw [collapsed_renamed_named, keeps.byte]
      simp only [applied, other, false_and, if_false]
      split <;> rfl

/-- Renaming and collapsing an applied name is to apply the name that it is renamed to. -/
theorem collapsed_renamed_applied {table : Renaming} (keeps : table.KeepsByteArrays) (name : String)
    (arguments : List TargetType) :
    ((applied name arguments).renamed table).collapsed =
      applied (table.rename name) (arguments.map fun t => (t.renamed table).collapsed) := by
  match arguments with
  | [] | _ :: _ :: _ => exact collapsed_renamed_named table name _
  | [argument] =>
      by_cases bytes : name = Renaming.targetArray ∧ isPlainByte argument = true
      · -- Both sides are the byte array, whose name is as fixed as those of its parts.
        obtain ⟨rfl, byte⟩ := bytes
        have own : applied Renaming.targetArray [argument] = .bare Renaming.targetByteArray :=
          if_pos ⟨rfl, byte⟩
        have after : applied Renaming.targetArray [(argument.renamed table).collapsed] =
            .bare Renaming.targetByteArray :=
          if_pos ⟨rfl, isPlainByte_collapsed_renamed keeps byte⟩
        rw [own, bare, collapsed_renamed_named, keeps.byteArray, keeps.array, List.map_singleton,
          after]
        rfl
      · have own : applied name [argument] = .named name [argument] false := if_neg bytes
        rw [own]
        exact collapsed_renamed_named table name [argument]

theorem isProjection_collapsed_renamed (table : Renaming) (t : TargetType) :
    (t.renamed table).collapsed.isProjection = t.isProjection := by
  rw [isProjection_eq, isProjection_eq, variance?_collapsed, variance?_renamed]

theorem collapsed_renamed_marked (tr : Translator) (t : SourceType) (target : TargetType) :
    ((tr.sourceNamer.marked t target).renamed tr.table).collapsed =
      tr.marked t (target.renamed tr.table).collapsed := by
  have same : tr.sourceNamer.isNullable t = tr.isNullable t := rfl
  rw [marked, marked, same]
  split
  · rw [renamed_withNullable, collapsed_withNullable]
  · rfl

theorem collapsed_renamed_boundOf (table : Renaming) (variance : Variance) (bound : TargetType) :
    ((boundOf variance bound).renamed table).collapsed =
      boundOf variance (bound.renamed table).collapsed := by
  cases variance with
  | producer => rw [boundOf, boundOf, renamed_withNullable, collapsed_withNullable]
  | consumer => rfl

theorem outcome_finished_eq_map (tr : Translator) (t : SourceType) {target named : TargetType}
    (same : target = (named.renamed tr.table).collapsed) :
    (tr.finished t target).outcome =
      (tr.sourceNamer.finished t named).outcome.map fun named =>
        (named.renamed tr.table).collapsed := by
  rw [finished_eq, finished_eq, same]
  exact congrArg Except.ok (collapsed_renamed_marked tr t named).symm

theorem outcome_projected_eq_map (table : Renaming) (variance : Variance) (bound : TargetType) :
    (projected variance (bound.renamed table).collapsed).outcome =
      (projected variance bound).outcome.map fun named => (named.renamed table).collapsed := by
  have shape := isProjection_collapsed_renamed table bound
  cases nested : bound.isProjection with
  | true =>
      rw [projected_of_isProjection variance nested,
        projected_of_isProjection variance (shape.trans nested)]
      rfl
  | false =>
      rw [projected_of_not_isProjection variance nested,
        projected_of_not_isProjection variance (shape.trans nested), ← collapsed_renamed_boundOf]
      rfl

mutual

theorem outcome_translate_eq_map (keeps : tr.table.KeepsByteArrays) :
    (t : SourceType) → (tr.translate t).outcome =
      (tr.sourceNamer.translate t).outcome.map fun named => (named.renamed tr.table).collapsed
  | .plain name as => by
      rw [translate, translate]
      exact outcome_finished_eq_map tr _ (collapsed_renamed_named tr.table name []).symm
  | .parameterized name arguments as => by
      rw [translate, translate]
      refine Traced.outcome_bind_eq_map (outcome_translateAll_eq_map keeps arguments) ?_
      exact fun names =>
        outcome_finished_eq_map tr _ (collapsed_renamed_applied keeps name names).symm
  | .array component as => by
      rw [translate, translate]
      refine Traced.outcome_bind_eq_map (outcome_translate_eq_map keeps component) ?_
      intro named
      have whole := collapsed_renamed_applied keeps Renaming.targetArray [named]
      rw [keeps.array] at whole
      exact outcome_finished_eq_map tr _ whole.symm
  | .wildcard variance none as => rfl
  | .wildcard variance (some bound) as => by
      rw [translate, translate]
      refine Traced.outcome_bind_eq_map (outcome_translate_eq_map keeps bound) ?_
      exact outcome_projected_eq_map tr.table variance

theorem outcome_translateAll_eq_map (keeps : tr.table.KeepsByteArrays) :
    (ts : List SourceType) → (tr.translateAll ts).outcome =
      (tr.sourceNamer.translateAll ts).outcome.map fun names =>
        names.map fun named => (named.renamed tr.table).collapsed
  | [] => rfl
  | t :: rest => by
      rw [translateAll, translateAll]
      refine Traced.outcome_bind_eq_map (outcome_translate_eq_map keeps t) fun named => ?_
      exact Traced.outcome_bind_eq_map (outcome_translateAll_eq_map keeps rest) fun names => rfl

end
end Translator

namespace Generator

/-- Where the configured renaming leaves the names of arrays, bytes and byte arrays alone, a type
translates exactly when it has a form under its source names, and fails with the same error.
Its translation is that form with every name renamed and then every array of bytes collapsed, the
innermost first. Wherever both have a part, that part bears the same null mark and variance. -/
theorem target_eq_collapsed_renamed (h : Host) (config : Config) (own : List Modifier)
    (absent : ∀ entry ∈ config.renamed,
      entry.1 ∉ [Renaming.targetArray, Renaming.targetByte, Renaming.targetByteArray])
    (t : SourceType) :
    let g := Generator.ofConfig h config own
    (∀ e, (g.target t).outcome = .error e ↔ g.sourceNamed t = .error e) ∧
    (g.target t).outcome =
      (g.sourceNamed t).map (fun named => (named.renamed g.context.table).collapsed) ∧
    ∀ named target, g.sourceNamed t = .ok named → (g.target t).outcome = .ok target →
      ∀ path a b, named.part? path = some a → target.part? path = some b →
        b.isNullable = a.isNullable ∧ b.variance? = a.variance? := by
  intro g
  have keeps : g.context.table.KeepsByteArrays := Renaming.keepsByteArrays_extend absent
  have same : (g.target t).outcome =
      (g.sourceNamed t).map (fun named => (named.renamed g.context.table).collapsed) :=
    Translator.outcome_translate_eq_map keeps t
  refine ⟨fun e => ?_, same, ?_⟩
  · rw [same]
    cases g.sourceNamed t with
    | error e' => exact ⟨id, id⟩
    | ok named => exact ⟨nofun, nofun⟩
  · intro named target source translated path a b there there'
    rw [same, source] at translated
    cases translated
    obtain ⟨a', before, rfl⟩ := TargetType.exists_part?_of_collapsed_renamed there'
    cases there.symm.trans before
    exact ⟨(TargetType.isNullable_collapsed _).trans (TargetType.isNullable_renamed ..),
      (TargetType.variance?_collapsed _).trans (TargetType.variance?_renamed ..)⟩

/-- A bound that is a byte array only after renaming: boxes are arrays and octets are bytes. -/
theorem target_eq_collapsed_renamed_boxOfOctets :
    let renamed := [("Box", Renaming.targetArray), ("Octet", Renaming.targetByte)]
    let g := Generator.ofConfig (.ofDeclarations ⟨[]⟩ false) { Config.standard with renamed } []
    let t : SourceType := .wildcard .producer (some (.parameterized "Box" [.bare "Octet"] [])) []
    (∀ entry ∈ renamed,
      entry.1 ∉ [Renaming.targetArray, Renaming.targetByte, Renaming.targetByteArray]) ∧
    g.sourceNamed t = .ok (.projection .producer (.named "Box" [.bare "Octet"] true)) ∧
    (g.target t).outcome = .ok (.projection .producer (.named "kotlin.ByteArray" [] true)) := by
  intro renamed g t
  have absent : ∀ entry ∈ renamed,
      entry.1 ∉ [Renaming.targetArray, Renaming.targetByte, Renaming.targetByteArray] := by decide
  have source : g.sourceNamed t =
      .ok (.projection .producer (.named "Box" [.bare "Octet"] true)) := rfl
  obtain ⟨_, same, _⟩ := target_eq_collapsed_renamed (.ofDeclarations ⟨[]⟩ false)
    { Config.standard with renamed } [] absent t
  exact ⟨absent, source, same.trans (by rw [source]; rfl)⟩

end Generator
end ClassAtlas
