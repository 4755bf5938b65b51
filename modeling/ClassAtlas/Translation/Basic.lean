import ClassAtlas.Host.Basic
import ClassAtlas.Renaming
import ClassAtlas.Translation.Traced

/-!
Translation of source types. Names are renamed and arguments translated in order; an array is a
class of one argument, and an array of plain bytes has a class of its own. A wildcard becomes a
projection of its bound, which for a producer admits null. An occurrence admits null when a marker
annotates it or the declaration it resolves to. Documents and artifacts are read down to a depth
(`Yaml.Grammar.nestingLimit`, `Nest.limit`, `Json.readingDepth`); a translation has no such limit, so
types of any depth are translated.
-/
namespace ClassAtlas

structure Translator where
  host : Host
  table : Renaming
  markers : List String

namespace Translator

def standardMarker : String := "org.jetbrains.annotations.Nullable"

def hasMarker (tr : Translator) (annotations : List AnnotationUse) : Bool :=
  annotations.any fun a => tr.markers.contains a.kind

def isNullable (tr : Translator) (t : SourceType) : Bool :=
  tr.hasMarker t.annotations || (tr.host.declarationOf? t).any fun d => tr.hasMarker d.annotations

def isPlainByte : TargetType → Bool
  | .named name _ nullable => name == Renaming.targetByte && !nullable
  | .projection .. => false

/-- An array of plain bytes collapses to the byte array. -/
def applied (name : String) (arguments : List TargetType) : TargetType :=
  match arguments with
  | [argument] =>
      if name = Renaming.targetArray ∧ isPlainByte argument then .bare Renaming.targetByteArray
      else .named name [argument] false
  | _ => .named name arguments false

def marked (tr : Translator) (t : SourceType) (target : TargetType) : TargetType :=
  if tr.isNullable t then target.withNullable true else target

/-- The null mark of an occurrence is set last and noted with the finished type. -/
def finished (tr : Translator) (t : SourceType) (target : TargetType) : Traced TargetType := do
  let target := tr.marked t target
  Traced.note (.translated t target)
  return target

def boundOf : Variance → TargetType → TargetType
  | .producer, bound => bound.withNullable true
  | .consumer, bound => bound

def projected (variance : Variance) (bound : TargetType) : Traced TargetType :=
  if bound.isProjection then Traced.fail .nestedWildcard
  else do
    Traced.note (.projected variance bound)
    return .projection variance (boundOf variance bound)

mutual

def translate (tr : Translator) : SourceType → Traced TargetType
  | .plain name as => tr.finished (.plain name as) (.bare (tr.table.rename name))
  | .parameterized name arguments as => do
      let targets ← tr.translateAll arguments
      tr.finished (.parameterized name arguments as) (applied (tr.table.rename name) targets)
  | .array component as => do
      let target ← tr.translate component
      tr.finished (.array component as) (applied Renaming.targetArray [target])
  | .wildcard variance none _ => Traced.fail (.unbounded variance)
  | .wildcard variance (some bound) _ => do
      let target ← tr.translate bound
      projected variance target

def translateAll (tr : Translator) : List SourceType → Traced (List TargetType)
  | [] => return []
  | t :: rest => do
      let target ← tr.translate t
      let targets ← tr.translateAll rest
      return target :: targets

end

theorem finished_eq (tr : Translator) (t : SourceType) (target : TargetType) :
    tr.finished t target =
      ⟨[.translated t (tr.marked t target)], .ok (tr.marked t target)⟩ := rfl

theorem projected_of_isProjection {bound : TargetType} (variance : Variance)
    (h : bound.isProjection = true) : projected variance bound = Traced.fail .nestedWildcard :=
  if_pos h

theorem projected_of_not_isProjection {bound : TargetType} (variance : Variance)
    (h : bound.isProjection = false) :
    projected variance bound =
      ⟨[.projected variance bound], .ok (.projection variance (boundOf variance bound))⟩ := by
  unfold projected
  rw [h]
  rfl

theorem outcome_projected_eq_ok_iff {variance : Variance} {bound target : TargetType} :
    (projected variance bound).outcome = .ok target ↔
      bound.isProjection = false ∧ target = .projection variance (boundOf variance bound) := by
  cases shape : bound.isProjection with
  | true => simp [projected_of_isProjection variance shape, Traced.fail]
  | false => simp [projected_of_not_isProjection variance shape, eq_comm]

/-- The result alone. -/
def target (tr : Translator) (t : SourceType) : Except StructureError TargetType :=
  (tr.translate t).outcome

/-- The same markers without renaming: types keep their source names. -/
def sourceNamer (tr : Translator) : Translator := { tr with table := .empty }

end Translator

/-- A translator and the modifiers that keep a field from being a property. -/
structure Context extends Translator where
  unsupported : List Modifier

def Context.standardUnsupported : List Modifier := [.isStatic, .isTransient]

end ClassAtlas
