import ClassAtlas.CommandLine.Run
import ClassAtlas.Proofs.ArtifactRoundTrip
import ClassAtlas.Proofs.Lists
import ClassAtlas.Proofs.RoundRecords
import ClassAtlas.Proofs.SessionNotes

/-!
The run of an inspection. The printer goes through the classes as their records are made. Where a
class has no record it breaks off with the failure of that class; otherwise its lines are a matter
of the records alone.
-/
namespace ClassAtlas

namespace PropertyRecord

variable {ctx : Context} {p : Property} {rest : List Property} {e : StructureError}

theorem ofProperty_eq_error_iff :
    (ofProperty ctx p).outcome = .error e ↔ (p.type ctx.toTranslator).outcome = .error e := by
  rw [ofProperty, Traced.outcome_bind_eq_error]
  simp

theorem ofProperties_cons_eq_error_iff : (ofProperties ctx (p :: rest)).outcome = .error e ↔
    (p.type ctx.toTranslator).outcome = .error e ∨
      ∃ r : PropertyRecord, r.Describes ctx p ∧ (ofProperties ctx rest).outcome = .error e := by
  rw [ofProperties, Traced.outcome_bind_eq_error, ofProperty_eq_error_iff]
  simp only [ofProperty_eq_ok_iff, Traced.outcome_bind_eq_error, Traced.outcome_pure, reduceCtorEq,
    and_false, exists_false, or_false]

end PropertyRecord

namespace CommandLine

namespace Inspect

/-- The line of a property as its record gives it. -/
def recordLine (palette : Palette) (r : PropertyRecord) : String :=
  let tags := (if r.collection then ["collection"] else []) ++ (if r.map then ["map"] else [])
  let tagged := if tags = [] then "" else " " ++ Text.separated ", " tags
  "  " ++ r.name ++ ": " ++ palette.blue r.type.text ++ " (" ++ r.access.word ++ ")" ++ tagged

/-- The lines of a class as its record gives them. -/
def recordLines (palette : Palette) (r : ClassRecord) : List String :=
  let provenance := if r.internal then "internal" else "external"
  let head :=
    palette.bold r.name ++ " [" ++ provenance ++ "] (namespace: " ++ r.namespaceName ++ ")"
  let body := if r.properties.isEmpty then ["  (no properties)"]
    else r.properties.map (recordLine palette)
  head :: body

/-- What is printed of the classes of a round. -/
def report (palette : Palette) (records : List ClassRecord) : List String :=
  if records.isEmpty then ["No annotated classes found."]
  else records.flatMap (recordLines palette)

variable (palette : Palette) {ctx : Context} {e : StructureError}

theorem propertyLine_of_describes {p : Property} {r : PropertyRecord} (same : r.Describes ctx p) :
    propertyLine palette ctx.host p r.type = recordLine palette r := by
  rw [propertyLine, recordLine, tags, same.name, same.collection, same.map, same.access]

theorem printProperties_cons_of_ok {p : Property} {rest : List Property} {t : TargetType}
    (typed : (p.type ctx.toTranslator).outcome = .ok t) (s : Session) :
    printProperties palette ctx (p :: rest) s =
      let others := printProperties palette ctx rest (s.observe (p.type ctx.toTranslator)).1
      { others with lines := propertyLine palette ctx.host p t :: others.lines } := by
  rw [printProperties, Session.observe, typed]

theorem printProperties_of_describes {ps : List Property} {rs : List PropertyRecord}
    (each : List.Forall₂ (PropertyRecord.Describes ctx) ps rs) (s : Session) :
    ∃ s', s.Noted s' ∧
      printProperties palette ctx ps s = ⟨s', rs.map (recordLine palette), .ok ()⟩ := by
  induction each generalizing s with
  | nil => exact ⟨s, .refl s, rfl⟩
  | @cons p r ps rs same _ ih =>
      have noted := s.noted_observe (p.type ctx.toTranslator)
      obtain ⟨s', others, printed⟩ := ih (s.observe (p.type ctx.toTranslator)).1
      refine ⟨s', noted.trans others, ?_⟩
      rw [printProperties_cons_of_ok palette same.type, printed,
        propertyLine_of_describes palette same]
      rfl

theorem printProperties_of_error {ps : List Property}
    (failed : (PropertyRecord.ofProperties ctx ps).outcome = .error e) (s : Session) :
    ∃ s' lines, printProperties palette ctx ps s = ⟨s', lines, .error e⟩ := by
  induction ps generalizing s with
  | nil => cases failed
  | cons p rest ih =>
      rcases PropertyRecord.ofProperties_cons_eq_error_iff.mp failed with
        first | ⟨r, same, others⟩
      · rw [printProperties, Session.observe, first]
        exact ⟨_, _, rfl⟩
      · obtain ⟨s', lines, printed⟩ := ih others (s.observe (p.type ctx.toTranslator)).1
        rw [printProperties_cons_of_ok palette same.type, printed]
        exact ⟨_, _, rfl⟩

/-- A class without properties has a line that says so. -/
theorem printClass_eq (c : AnnotatedClass) (s : Session) :
    printClass palette ctx c s =
      let printed := printProperties palette ctx (c.properties ctx) s
      { printed with lines := headLine palette c ::
          if (c.properties ctx).isEmpty then ["  (no properties)"] else printed.lines } := by
  rw [printClass]
  cases c.properties ctx with
  | nil => rfl
  | cons p rest => rfl

theorem printClass_of_describes {c : AnnotatedClass} {r : ClassRecord} (same : r.Describes ctx c)
    (s : Session) :
    ∃ s', s.Noted s' ∧ printClass palette ctx c s = ⟨s', recordLines palette r, .ok ()⟩ := by
  obtain ⟨s', noted, printed⟩ := printProperties_of_describes palette same.properties s
  have empty := isEmpty_eq_of_forall₂ same.properties
  refine ⟨s', noted, ?_⟩
  rw [printClass_eq, printed, recordLines, headLine, same.name, same.namespaceName, same.internal,
    empty]

theorem printClass_of_error {c : AnnotatedClass}
    (failed : (ClassRecord.ofClass ctx c).outcome = .error e) (s : Session) :
    ∃ s' lines, printClass palette ctx c s = ⟨s', lines, .error e⟩ := by
  rw [ClassRecord.ofClass, Traced.outcome_bind_eq_error] at failed
  have first : (PropertyRecord.ofProperties ctx (c.properties ctx)).outcome = .error e := by
    simpa using failed
  obtain ⟨s', lines, printed⟩ := printProperties_of_error palette first s
  rw [printClass_eq, printed]
  exact ⟨_, _, rfl⟩

theorem printClasses_cons_of_ok {c : AnnotatedClass} {rest : List AnnotatedClass} {s s' : Session}
    {lines : List String} (own : printClass palette ctx c s = ⟨s', lines, .ok ()⟩) :
    printClasses palette ctx (c :: rest) s =
      let others := printClasses palette ctx rest s'
      { others with lines := lines ++ others.lines } := by
  rw [printClasses, own]

theorem printClasses_of_ok {classes : List AnnotatedClass} {records : List ClassRecord}
    (done : ClassRecord.ofClasses ctx classes = .ok records) (s : Session) :
    ∃ s', s.Noted s' ∧ printClasses palette ctx classes s =
      ⟨s', records.flatMap (recordLines palette), .ok ()⟩ := by
  induction classes generalizing records s with
  | nil =>
      cases done
      exact ⟨s, .refl s, rfl⟩
  | cons c rest ih =>
      obtain ⟨r, rs, first, others, rfl⟩ := ClassRecord.ofClasses_cons_eq_ok_iff.mp done
      obtain ⟨s₁, noted, own⟩ :=
        printClass_of_describes palette (ClassRecord.ofClass_eq_ok_iff.mp first) s
      obtain ⟨s₂, noted', more⟩ := ih others s₁
      refine ⟨s₂, noted.trans noted', ?_⟩
      rw [printClasses_cons_of_ok palette own, more]
      rfl

theorem printClasses_of_error {classes : List AnnotatedClass}
    (failed : ClassRecord.ofClasses ctx classes = .error e) (s : Session) :
    ∃ s' lines, printClasses palette ctx classes s = ⟨s', lines, .error e⟩ := by
  induction classes generalizing s with
  | nil => cases failed
  | cons c rest ih =>
      rcases ClassRecord.ofClasses_cons_eq_error_iff.mp failed with first | ⟨r, first, others⟩
      · obtain ⟨s', lines, own⟩ := printClass_of_error palette first s
        rw [printClasses, own]
        exact ⟨_, _, rfl⟩
      · obtain ⟨s₁, _, own⟩ :=
          printClass_of_describes palette (ClassRecord.ofClass_eq_ok_iff.mp first) s
        obtain ⟨s', lines, more⟩ := ih others s₁
        rw [printClasses_cons_of_ok palette own, more]
        exact ⟨_, _, rfl⟩

variable {g : Generator} {directKind : String} {registryKind : Option String} {s s₀ : Session}
  {found : ClassSet}

theorem inspect_of_error (discovered : g.discover directKind registryKind s = (s₀, .ok found))
    (failed : ClassRecord.ofClasses g.context found.toList = .error e) :
    ∃ s' lines, inspect palette g directKind registryKind s = broken lines s' e.message := by
  have some : found.isNotEmpty = true := by
    cases classes : found.classes with
    | nil =>
        rw [ClassSet.toList, classes] at failed
        cases failed
    | cons c rest =>
        rw [ClassSet.isNotEmpty, classes]
        rfl
  obtain ⟨s', lines, printed⟩ := printClasses_of_error palette failed s₀
  refine ⟨s', lines, ?_⟩
  rw [inspect, discovered]
  simp only [some, if_true, printed]

/-- An inspection that goes through all classes prints them and ends well. -/
theorem inspect_of_ok {records : List ClassRecord} (clean : s.hasErrors = false)
    (discovered : g.discover directKind registryKind s = (s₀, .ok found))
    (done : ClassRecord.ofClasses g.context found.toList = .ok records) :
    ∃ s', s.Noted s' ∧ inspect palette g directKind registryKind s =
      ⟨unlines (report palette records), log s', s'.files, .ok 0⟩ := by
  have noted := g.noted_discover directKind registryKind s
  rw [discovered] at noted
  obtain ⟨s', noted', printed⟩ := printClasses_of_ok palette done s₀
  have sound : exitCode s' = 0 := by
    rw [exitCode, (noted.trans noted').hasErrors, clean]
    rfl
  have same : found.isNotEmpty = !records.isEmpty :=
    congrArg Bool.not (isEmpty_eq_of_forall₂ (ClassRecord.ofClasses_eq_ok_iff.mp done))
  rw [inspect, discovered]
  dsimp only
  rw [printed, same, report]
  -- Without records the run ends where the discovery left it.
  cases records.isEmpty with
  | true => exact ⟨s₀, noted, rfl⟩
  | false => exact ⟨s', noted.trans noted', by rw [sound]; rfl⟩

end Inspect
end CommandLine
end ClassAtlas
