import ClassAtlas.Proofs.TranslationShape

/-!
Translations under more nullability markers. A further marker sets null marks and takes none away.
The shape of a type stays, but for arrays of bytes: a byte that is marked keeps its array from being
a byte array. No array becomes a byte array that was none, and a type translates as before or fails
as before.
-/
namespace ClassAtlas

namespace Translator

/-- Translators that differ in their markers alone, where the second has those of the first. -/
structure MarksMore (tr tr' : Translator) : Prop where
  host : tr'.host = tr.host
  table : tr'.table = tr.table
  markers : tr.markers ⊆ tr'.markers

mutual

/-- Two targets of one source: the same classes, arities and variances throughout, and every null
mark of the first also in the second. Only what collapses under the first translator may still be an
array under the second, of a byte that admits null there. -/
inductive Loosens (tr tr' : Translator) : SourceType → TargetType → TargetType → Prop where
  | named {t : SourceType} {name : String} {arguments : List SourceType}
      {targets targets' : List TargetType} {nullable nullable' : Bool}
      (of : tr.application? t = some (name, arguments)) (kept : ¬ tr.Collapses t)
      (each : LoosensAll tr tr' arguments targets targets')
      (grows : nullable = true → nullable' = true) :
      Loosens tr tr' t (.named name targets nullable) (.named name targets' nullable')
  | byteArray {t : SourceType} {nullable nullable' : Bool} (was : tr.Collapses t)
      (still : tr'.Collapses t) (grows : nullable = true → nullable' = true) :
      Loosens tr tr' t (.named Renaming.targetByteArray [] nullable)
        (.named Renaming.targetByteArray [] nullable')
  | array {t component : SourceType} {inner inner' : List TargetType} {nullable nullable' : Bool}
      (of : tr.application? t = some (Renaming.targetArray, [component]))
      (was : tr.target component = .ok (.named Renaming.targetByte inner false))
      (now : tr'.target component = .ok (.named Renaming.targetByte inner' true))
      (own : Loosens tr tr' component (.named Renaming.targetByte inner false)
        (.named Renaming.targetByte inner' true))
      (grows : nullable = true → nullable' = true) :
      Loosens tr tr' t (.named Renaming.targetByteArray [] nullable)
        (.named Renaming.targetArray [.named Renaming.targetByte inner' true] nullable')
  | wildcard {variance : Variance} {bound : SourceType} {as : List AnnotationUse}
      {target target' : TargetType} (inner : Loosens tr tr' bound target target') :
      Loosens tr tr' (.wildcard variance (some bound) as) (.projection variance target)
        (.projection variance target')

inductive LoosensAll (tr tr' : Translator) :
    List SourceType → List TargetType → List TargetType → Prop where
  | nil : LoosensAll tr tr' [] [] []
  | cons {t : SourceType} {rest : List SourceType} {target target' : TargetType}
      {targets targets' : List TargetType} (first : Loosens tr tr' t target target')
      (others : LoosensAll tr tr' rest targets targets') :
      LoosensAll tr tr' (t :: rest) (target :: targets) (target' :: targets')

end

namespace MarksMore

variable {tr tr' : Translator}

theorem hasMarker (grown : tr.MarksMore tr') {annotations : List AnnotationUse}
    (marked : tr.hasMarker annotations = true) : tr'.hasMarker annotations = true := by
  obtain ⟨a, mem, found⟩ := List.any_eq_true.mp marked
  refine List.any_eq_true.mpr ⟨a, mem, ?_⟩
  exact List.contains_iff_mem.mpr (grown.markers (List.contains_iff_mem.mp found))

theorem isNullable (grown : tr.MarksMore tr') {t : SourceType} (nullable : tr.isNullable t = true) :
    tr'.isNullable t = true := by
  rw [Translator.isNullable, Bool.or_eq_true] at nullable ⊢
  refine nullable.imp grown.hasMarker fun declared => ?_
  obtain ⟨d, known, marked⟩ := (Option.any_eq_true _ _).mp declared
  rw [grown.host, known]
  exact grown.hasMarker marked

theorem application?_eq (grown : tr.MarksMore tr') (t : SourceType) :
    tr'.application? t = tr.application? t := by
  cases t <;> simp only [application?, grown.table]

end MarksMore

namespace Loosens

variable {tr tr' : Translator} {t : SourceType} {target target' : TargetType}

theorem withNullable (loosens : tr.Loosens tr' t target target') (nullable : Bool) :
    tr.Loosens tr' t (target.withNullable nullable) (target'.withNullable nullable) := by
  cases loosens with
  | named of kept each grows => exact .named of kept each id
  | byteArray was still grows => exact .byteArray was still id
  | array of was now own grows => exact .array of was now own id
  | wildcard inner => exact .wildcard inner

theorem boundOf (loosens : tr.Loosens tr' t target target') (variance : Variance) :
    tr.Loosens tr' t (boundOf variance target) (boundOf variance target') := by
  cases variance with
  | producer => exact loosens.withNullable true
  | consumer => exact loosens

/-- What was a byte is a byte. -/
theorem of_byte {arguments : List TargetType} {nullable : Bool}
    (loosens : tr.Loosens tr' t (.named Renaming.targetByte arguments nullable) target') :
    ∃ arguments' nullable', target' = .named Renaming.targetByte arguments' nullable' := by
  generalize same : TargetType.named Renaming.targetByte arguments nullable = target at loosens
  cases loosens with
  | named of kept each grows =>
      cases same
      exact ⟨_, _, rfl⟩
  | byteArray | array => exact absurd (TargetType.named.inj same).1 (by decide)
  | wildcard inner => cases same

/-- What is a byte that admits no null was one before. -/
theorem to_byte {arguments' : List TargetType}
    (loosens : tr.Loosens tr' t target (.named Renaming.targetByte arguments' false)) :
    ∃ arguments, target = .named Renaming.targetByte arguments false := by
  generalize same : TargetType.named Renaming.targetByte arguments' false = target' at loosens
  cases loosens with
  | @named _ _ _ targets _ nullable _ of kept each grows =>
      cases same
      cases nullable with
      | false => exact ⟨targets, rfl⟩
      | true => cases grows rfl
  | byteArray | array => exact absurd (TargetType.named.inj same).1 (by decide)
  | wildcard inner => cases same

end Loosens

variable {tr tr' : Translator}

theorem loosensAll_singleton {t : SourceType} {target : TargetType} {targets' : List TargetType}
    (each : tr.LoosensAll tr' [t] [target] targets') :
    ∃ target', targets' = [target'] ∧ tr.Loosens tr' t target target' := by
  cases each with
  | cons first others =>
      cases others
      exact ⟨_, rfl, first⟩

/-- An array of bytes under more markers was one before. -/
theorem collapses_of_loosens (grown : tr.MarksMore tr') {t component : SourceType}
    {target : TargetType} {arguments' : List TargetType}
    (of : tr'.application? t = some (Renaming.targetArray, [component]))
    (done : tr.target component = .ok target)
    (loosens : tr.Loosens tr' component target (.named Renaming.targetByte arguments' false)) :
    tr.Collapses t := by
  obtain ⟨arguments, rfl⟩ := loosens.to_byte
  exact ⟨component, arguments, (grown.application?_eq t).symm.trans of, done⟩

/-- Where the arguments are related, so are the classes that are applied to them. -/
theorem loosens_of_application? (grown : tr.MarksMore tr') {t : SourceType} {name : String}
    {arguments : List SourceType} {target target' : TargetType}
    (of : tr.application? t = some (name, arguments))
    (done : (tr.translate t).outcome = .ok target) (done' : (tr'.translate t).outcome = .ok target')
    (each : ∀ targets targets', (tr.translateAll arguments).outcome = .ok targets →
      (tr'.translateAll arguments).outcome = .ok targets' →
        tr.LoosensAll tr' arguments targets targets') : tr.Loosens tr' t target target' := by
  have of' := (grown.application?_eq t).trans of
  obtain ⟨targets, all, result⟩ := exists_named_of_application? of done
  obtain ⟨targets', all', result'⟩ := exists_named_of_application? of' done'
  have related := each targets targets' all all'
  rcases result with ⟨was, rfl⟩ | ⟨kept, rfl⟩
  · rcases result' with ⟨still, rfl⟩ | ⟨opened, rfl⟩
    · exact .byteArray was still grown.isNullable
    · obtain ⟨component, inner, array, own⟩ := was
      cases of.symm.trans array
      obtain ⟨_, own', rfl⟩ := translateAll_singleton_iff.mp all'
      obtain ⟨_, known, rfl⟩ := translateAll_singleton_iff.mp all
      cases own.symm.trans known
      obtain ⟨_, same, loosens⟩ := loosensAll_singleton related
      cases same
      obtain ⟨inner', nullable', rfl⟩ := loosens.of_byte
      cases nullable' with
      | false => exact absurd ⟨component, inner', of', own'⟩ opened
      | true => exact .array of own own' loosens grown.isNullable
  · rcases result' with ⟨still, rfl⟩ | ⟨opened, rfl⟩
    · obtain ⟨component, inner', array, own'⟩ := still
      cases of'.symm.trans array
      obtain ⟨_, known', rfl⟩ := translateAll_singleton_iff.mp all'
      cases own'.symm.trans known'
      obtain ⟨_, own, rfl⟩ := translateAll_singleton_iff.mp all
      obtain ⟨_, same, loosens⟩ := loosensAll_singleton related
      cases same
      exact absurd (collapses_of_loosens grown array own loosens) kept
    · exact .named of kept related grown.isNullable

mutual

/-- The induction is on the source, over both runs at once. -/
theorem loosens_of_translate (grown : tr.MarksMore tr') : {t : SourceType} →
    {target target' : TargetType} → (tr.translate t).outcome = .ok target →
      (tr'.translate t).outcome = .ok target' → tr.Loosens tr' t target target'
  | .plain name as, _, _, done, done' => by
      refine loosens_of_application? grown rfl done done' fun targets targets' all all' => ?_
      cases all
      cases all'
      exact .nil
  | .parameterized name arguments as, _, _, done, done' =>
      loosens_of_application? grown rfl done done' fun _ _ => loosensAll_of_translateAll grown
  | .array component as, _, _, done, done' => by
      refine loosens_of_application? grown rfl done done' fun targets targets' all all' => ?_
      obtain ⟨target, own, rfl⟩ := translateAll_singleton_iff.mp all
      obtain ⟨target', own', rfl⟩ := translateAll_singleton_iff.mp all'
      exact .cons (loosens_of_translate grown own own') .nil
  | .wildcard variance none as, _, _, done, _ => by cases done
  | .wildcard variance (some bound) as, _, _, done, done' => by
      obtain ⟨target, own, last⟩ := Traced.outcome_bind_eq_ok.mp done
      obtain ⟨target', own', last'⟩ := Traced.outcome_bind_eq_ok.mp done'
      obtain ⟨_, rfl⟩ := outcome_projected_eq_ok_iff.mp last
      obtain ⟨_, rfl⟩ := outcome_projected_eq_ok_iff.mp last'
      exact .wildcard ((loosens_of_translate grown own own').boundOf variance)

theorem loosensAll_of_translateAll (grown : tr.MarksMore tr') : {ts : List SourceType} →
    {targets targets' : List TargetType} → (tr.translateAll ts).outcome = .ok targets →
      (tr'.translateAll ts).outcome = .ok targets' → tr.LoosensAll tr' ts targets targets'
  | [], _, _, done, done' => by
      cases done
      cases done'
      exact .nil
  | t :: rest, _, _, done, done' => by
      obtain ⟨target, own, more⟩ := Traced.outcome_bind_eq_ok.mp done
      obtain ⟨targets, others, last⟩ := Traced.outcome_bind_eq_ok.mp more
      obtain ⟨target', own', more'⟩ := Traced.outcome_bind_eq_ok.mp done'
      obtain ⟨targets', others', last'⟩ := Traced.outcome_bind_eq_ok.mp more'
      cases last
      cases last'
      exact .cons (loosens_of_translate grown own own')
        (loosensAll_of_translateAll grown others others')

end

/-- Under more markers a type translates exactly when it did, with the same error otherwise. Its
target has the same classes, arities and variances throughout, and keeps every null mark; only what
became a byte array for want of a mark on the byte may be an array of a byte that admits null. No
array becomes a byte array that was none. -/
theorem target_under_more_markers (h : Host) (table : Renaming) {fewer more : List String}
    (sub : fewer ⊆ more) (t : SourceType) :
    let tr : Translator := ⟨h, table, fewer⟩
    let tr' : Translator := ⟨h, table, more⟩
    ((∃ target, tr.target t = .ok target) ↔ ∃ target', tr'.target t = .ok target') ∧
    (∀ e, tr.target t = .error e ↔ tr'.target t = .error e) ∧
    (∀ target target', tr.target t = .ok target → tr'.target t = .ok target' →
      tr.Loosens tr' t target target') ∧
    ∀ o, tr'.Collapses o → tr.Collapses o := by
  intro tr tr'
  have grown : tr.MarksMore tr' := ⟨rfl, rfl, sub⟩
  have translates (o : SourceType) :
      (∃ target, tr.target o = .ok target) ↔ ∃ target', tr'.target o = .ok target' :=
    (visits_translate tr o).outcome_ok_iff.trans (visits_translate tr' o).outcome_ok_iff.symm
  refine ⟨translates t, fun e => ?_, fun _ _ => loosens_of_translate grown, ?_⟩
  · rw [target, target, (visits_translate tr t).outcome_error_iff,
      (visits_translate tr' t).outcome_error_iff]
  · rintro o ⟨component, arguments', of, own'⟩
    obtain ⟨target, own⟩ := (translates component).mpr ⟨_, own'⟩
    exact collapses_of_loosens grown of own (loosens_of_translate grown own own')

/-- Two arrays of bytes, of which a second marker opens the one that it stands in. -/
theorem target_under_more_markers_pairOfByteArrays :
    let tr : Translator := ⟨.ofDeclarations ⟨[]⟩ false, .standard, ["a.Null"]⟩
    let tr' : Translator := ⟨.ofDeclarations ⟨[]⟩ false, .standard, ["b.Null", "a.Null"]⟩
    let t : SourceType := .parameterized "a.Pair"
      [.array (.plain "byte" [⟨"b.Null", []⟩]) [⟨"a.Null", []⟩],
        .wildcard .producer (some (.array (.bare "byte") [])) []] []
    let bytes : TargetType := .projection .producer (.named "kotlin.ByteArray" [] true)
    let target : TargetType := .named "a.Pair" [.named "kotlin.ByteArray" [] true, bytes] false
    let target' : TargetType := .named "a.Pair"
      [.named "kotlin.Array" [.named "kotlin.Byte" [] true] true, bytes] false
    ["a.Null"] ⊆ ["b.Null", "a.Null"] ∧ tr.target t = .ok target ∧ tr'.target t = .ok target' ∧
      tr.Loosens tr' t target target' := by
  intro tr tr' t bytes target target'
  have sub : ["a.Null"] ⊆ ["b.Null", "a.Null"] := by decide
  have done : tr.target t = .ok target := rfl
  have done' : tr'.target t = .ok target' := rfl
  obtain ⟨_, _, loosens, _⟩ :=
    target_under_more_markers (.ofDeclarations ⟨[]⟩ false) .standard sub t
  exact ⟨sub, done, done', loosens target target' done done'⟩

end Translator
end ClassAtlas
