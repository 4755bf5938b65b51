import ClassAtlas.Proofs.Unplaced

/-!
Hosts in which every name leads to the same declaration, apart from places. They agree on whatever
is asked through names: which types are assignable, how types translate and which artifact a class
has.
-/
namespace ClassAtlas

namespace Host

/-- Every name leads to the same declaration in both, apart from places. -/
def Agree (h h' : Host) : Prop :=
  ∀ name, (h.typeNamed? name).map TypeDeclaration.unplaced =
    (h'.typeNamed? name).map TypeDeclaration.unplaced

namespace Agree

variable {h h' : Host} {name : String}

theorem symm (agree : h.Agree h') : h'.Agree h := fun name => (agree name).symm

theorem exists_of_typeNamed? (agree : h.Agree h') {t : TypeDeclaration}
    (known : h.typeNamed? name = some t) :
    ∃ t', h'.typeNamed? name = some t' ∧ t'.unplaced = t.unplaced := by
  have same := agree name
  rw [known, Option.map_some, eq_comm, Option.map_eq_some_iff] at same
  exact same

theorem typeNamed?_eq_none (agree : h.Agree h') (unknown : h.typeNamed? name = none) :
    h'.typeNamed? name = none := by
  have same := agree name
  rw [unknown, Option.map_none, eq_comm, Option.map_eq_none_iff] at same
  exact same

/-- What is asked of the declaration of a name has one answer, unless places count in it. -/
theorem map_typeNamed? {α : Type} {ask : TypeDeclaration → α} (agree : h.Agree h')
    (blind : ∀ t, ask t.unplaced = ask t) (name : String) :
    (h.typeNamed? name).map ask = (h'.typeNamed? name).map ask := by
  have same := congrArg (Option.map ask) (agree name)
  simpa only [Option.map_map, Function.comp_def, blind] using same

theorem supertypeNames_eq (agree : h.Agree h') (name : String) :
    h.supertypeNames name = h'.supertypeNames name := by
  have asked : ∀ h : Host, h.supertypeNames name =
      ((h.typeNamed? name).map fun t => t.supertypes.filterMap SourceType.rawName?).getD [] := by
    intro h
    rw [supertypeNames]
    cases h.typeNamed? name <;> rfl
  rw [asked, asked, agree.map_typeNamed? fun _ => rfl]

/-- Both searches follow the same names in the same order. -/
theorem reaches_eq (agree : h.Agree h') (anchor : String) (seen pending : List String) :
    h.reaches anchor seen pending = h'.reaches anchor seen pending := by
  fun_induction reaches h anchor seen pending with
  | case1 => rw [reaches]
  | case2 seen pending => rw [reaches, if_pos rfl]
  | case3 seen name pending other old ih => rw [ih, reaches, if_neg other, if_pos old]
  | case4 seen name pending other new ih =>
      rw [ih, agree.supertypeNames_eq name]
      conv => rhs; rw [reaches, if_neg other, if_neg new]

theorem isAssignable_eq (agree : h.Agree h') (t : SourceType) (anchor : String) :
    h.isAssignable t anchor = h'.isAssignable t anchor := by
  simp only [isAssignable, agree.reaches_eq]

theorem any_declarationOf? {ask : TypeDeclaration → Bool} (agree : h.Agree h')
    (blind : ∀ t, ask t.unplaced = ask t) (t : SourceType) :
    (h.declarationOf? t).any ask = (h'.declarationOf? t).any ask := by
  rw [declarationOf?, declarationOf?]
  cases t.rawName? with
  | none => rfl
  | some name =>
      have same := congrArg (Option.any id) (agree.map_typeNamed? blind name)
      rw [Option.any_map, Option.any_map] at same
      exact same

end Agree
end Host

namespace Translator

variable {tr tr' : Translator}

theorem finished_congr (nullable : ∀ t, tr.isNullable t = tr'.isNullable t) (t : SourceType)
    (target : TargetType) : tr.finished t target = tr'.finished t target := by
  simp only [finished, marked, nullable]

mutual

/-- Translators with one table that take the same occurrences for nullable translate alike. -/
theorem translate_congr (table : tr.table = tr'.table)
    (nullable : ∀ t, tr.isNullable t = tr'.isNullable t) :
    (t : SourceType) → tr.translate t = tr'.translate t
  | .plain name as => by rw [translate, translate, table, finished_congr nullable]
  | .parameterized name arguments as => by
      simp only [translate, translateAll_congr table nullable arguments, table,
        finished_congr nullable]
  | .array component as => by
      simp only [translate, translate_congr table nullable component, finished_congr nullable]
  | .wildcard variance none as => by rw [translate, translate]
  | .wildcard variance (some bound) as => by
      rw [translate, translate_congr table nullable bound, translate]

theorem translateAll_congr (table : tr.table = tr'.table)
    (nullable : ∀ t, tr.isNullable t = tr'.isNullable t) :
    (ts : List SourceType) → tr.translateAll ts = tr'.translateAll ts
  | [] => by rw [translateAll, translateAll]
  | t :: rest => by
      rw [translateAll, translate_congr table nullable t, translateAll_congr table nullable rest,
        translateAll]

end
end Translator

/-- Translators with one table and the same markers, over hosts that agree. -/
structure Translator.Agree (tr tr' : Translator) : Prop where
  hosts : tr.host.Agree tr'.host
  table : tr.table = tr'.table
  markers : tr.markers = tr'.markers

namespace Translator.Agree

variable {tr tr' : Translator}

theorem hasMarker_eq (agree : tr.Agree tr') (annotations : List AnnotationUse) :
    tr.hasMarker annotations = tr'.hasMarker annotations := by
  rw [hasMarker, agree.markers, hasMarker]

theorem isNullable_eq (agree : tr.Agree tr') (t : SourceType) :
    tr.isNullable t = tr'.isNullable t := by
  simp only [isNullable, agree.hasMarker_eq]
  rw [agree.hosts.any_declarationOf? fun _ => rfl]

/-- Translation asks the host for nullability alone. -/
theorem translate_eq (agree : tr.Agree tr') (t : SourceType) : tr.translate t = tr'.translate t :=
  translate_congr agree.table agree.isNullable_eq t

end Translator.Agree

/-- Contexts over translators that agree, with the same properties of a class. -/
structure Context.Agree (ctx ctx' : Context) : Prop where
  translators : ctx.toTranslator.Agree ctx'.toTranslator
  unsupported : ctx.unsupported = ctx'.unsupported

namespace Context.Agree

variable {ctx ctx' : Context}

theorem type_eq (agree : ctx.Agree ctx') (p : Property) :
    p.type ctx.toTranslator = p.type ctx'.toTranslator := by
  have nullable : p.isDeclaredNullable ctx.toTranslator =
      p.isDeclaredNullable ctx'.toTranslator := by
    simp only [Property.isDeclaredNullable, agree.translators.hasMarker_eq]
  rw [Property.type, agree.translators.translate_eq, nullable, Property.type]

theorem ofProperty_eq (agree : ctx.Agree ctx') (p : Property) :
    PropertyRecord.ofProperty ctx p = PropertyRecord.ofProperty ctx' p := by
  simp only [PropertyRecord.ofProperty, agree.type_eq, ReflectedType.isCollection,
    ReflectedType.isMap, Host.isCollection, Host.isMap, agree.translators.hosts.isAssignable_eq]

theorem ofProperties_eq (agree : ctx.Agree ctx') (ps : List Property) :
    PropertyRecord.ofProperties ctx ps = PropertyRecord.ofProperties ctx' ps := by
  induction ps with
  | nil => rfl
  | cons p rest ih =>
      rw [PropertyRecord.ofProperties, agree.ofProperty_eq, ih, PropertyRecord.ofProperties]

/-- Classes that are the same apart from places have the same artifact, or the same failure. -/
theorem serialize_eq (agree : ctx.Agree ctx') {c c' : AnnotatedClass}
    (same : c.unplaced = c'.unplaced) : c.serialize ctx = c'.serialize ctx' := by
  have properties : c'.properties ctx = c'.properties ctx' := by
    rw [AnnotatedClass.properties, agree.unsupported, AnnotatedClass.properties]
  calc c.serialize ctx
    _ = c'.serialize ctx := by
        rw [← AnnotatedClass.serialize_unplaced, same, AnnotatedClass.serialize_unplaced]
    _ = c'.serialize ctx' := by
        simp only [AnnotatedClass.serialize, ClassRecord.ofClass, properties, agree.ofProperties_eq]

end Context.Agree
end ClassAtlas
