import ClassAtlas.Proofs.InspectionAgreement

/-!
The account of a dump. The writer is asked once for each class before the first that does not
translate, in order and whatever it answered before. The paths kept are those that it answered,
every refusal is one report, and a class that does not translate is what ends a run early.
-/
namespace ClassAtlas

open Files (FileTree Path)

theorem PropertyRecord.exists_type_of_describes {ctx : Context} {ps : List Property}
    {rs : List PropertyRecord} (each : List.Forall₂ (Describes ctx) ps rs) :
    ∀ p ∈ ps, ∃ t, (p.type ctx.toTranslator).outcome = .ok t := by
  induction each with
  | nil => simp
  | cons same _ ih => exact List.forall_mem_cons.mpr ⟨⟨_, same.type⟩, ih⟩

namespace AnnotatedClass

/-- Whether every property of a class translates. -/
def translates (ctx : Context) (c : AnnotatedClass) : Bool :=
  (c.properties ctx).all fun p => (p.type ctx.toTranslator).outcome.isOk

theorem translates_iff {ctx : Context} {c : AnnotatedClass} :
    c.translates ctx = true ↔
      ∀ p ∈ c.properties ctx, ∃ t, (p.type ctx.toTranslator).outcome = .ok t := by
  rw [translates, List.all_eq_true]
  refine forall₂_congr fun p _ => ?_
  cases (p.type ctx.toTranslator).outcome <;> simp [Except.isOk, Except.toBool]

/-- A class has an artifact exactly when it translates. -/
theorem exists_serialize_iff {ctx : Context} {c : AnnotatedClass} :
    (∃ text, (c.serialize ctx).outcome = .ok text) ↔ c.translates ctx = true := by
  rw [translates_iff]
  constructor
  · rintro ⟨text, done⟩
    obtain ⟨r, recorded, _⟩ := Traced.outcome_bind_eq_ok.mp done
    have described := ClassRecord.ofClass_eq_ok_iff.mp recorded
    exact PropertyRecord.exists_type_of_describes described.properties
  · intro types
    obtain ⟨r, same⟩ := exists_describes types
    exact ⟨_, serialize_of_describes same⟩

theorem exists_error_of_not_translates {ctx : Context} {c : AnnotatedClass}
    (fails : c.translates ctx = false) : ∃ e, (c.serialize ctx).outcome = .error e := by
  cases outcome : (c.serialize ctx).outcome with
  | error e => exact ⟨e, rfl⟩
  | ok text =>
      rw [exists_serialize_iff.mp ⟨text, outcome⟩] at fails
      cases fails

end AnnotatedClass

namespace Session

/-- What was reported at a severity. -/
def reported (severity : Severity) (s : Session) : List Diagnostic :=
  s.diagnostics.filter fun d => d.severity == severity

theorem length_reported_report (severity severity' : Severity) (message : RawText) (s : Session) :
    ((s.report severity message).reported severity').length =
      (s.reported severity').length + if severity = severity' then 1 else 0 := by
  rw [reported, report, List.filter_append, List.length_append]
  by_cases same : severity = severity' <;> simp [same, reported]

/-- Notes are none of the warnings and errors. -/
theorem Noted.reported {before after : Session} (noted : Noted before after) {severity : Severity}
    (serious : severity ≠ .info) : after.reported severity = before.reported severity := by
  obtain ⟨notes, infos, added⟩ := noted.diagnostics
  have none : notes.filter (fun d => d.severity == severity) = [] := by
    rw [List.filter_eq_nil_iff]
    intro d mem
    simp [infos d mem, serious.symm]
  rw [Session.reported, Session.reported, added, List.filter_append, none, List.append_nil]

theorem hasErrors_eq_false_iff {s : Session} : s.hasErrors = false ↔ s.errors.length = 0 := by
  rw [hasErrors, Diagnostic.hasErrors, List.any_eq_false, errors, Diagnostic.errors,
    List.length_eq_zero_iff, List.filter_eq_nil_iff]

end Session

namespace Generator

/-- The severity at which a run reports what could not be written. -/
def refusal (strict : Bool) : Severity := if strict then .error else .warning

theorem reported_traced (files : FileTree) (messages : List String) (s : Session)
    {severity : Severity} (serious : severity ≠ .info) :
    (traced files messages s).reported severity = s.reported severity :=
  (s.noted_traceAll messages).reported serious

theorem length_reported_reportUnwritten (strict : Bool) (directory file : String)
    (content : RawText) (e : WriteError) (s : Session) {severity : Severity}
    (serious : severity ≠ .info) :
    ((reportUnwritten strict directory file content e s).reported severity).length =
      (s.reported severity).length + if refusal strict = severity then 1 else 0 := by
  rw [reportUnwritten, Session.length_reported_report, (s.noted_note _).reported serious]
  rfl

/-- A refusal is reported once, at the severity of the run; a path is not reported at all. -/
theorem length_reported_writeFile (g : Generator) (strict : Bool) (directory file : String)
    (content : RawText) (s : Session) {severity : Severity} (serious : severity ≠ .info) :
    let written := g.writeFile strict directory file content s
    (written.1.reported severity).length = (s.reported severity).length +
      if refusal strict = severity then [written.2].countP Option.isNone else 0 := by
  have attempted := g.attempted_writeFile strict directory file content s
  generalize g.writeFile strict directory file content s = written at attempted ⊢
  cases attempted with
  | unwritten _ _ _ =>
      dsimp only
      rw [length_reported_reportUnwritten strict directory file content _ _ serious,
        reported_traced _ _ s serious]
      rfl
  | written _ _ _ _ =>
      dsimp only
      rw [reported_traced _ _ s serious]
      simp

end Generator

namespace Dump

/-- What the writer answers to texts given to it in turn: the path of each that it wrote. -/
def answers (d : Dump) : List (AnnotatedClass × String) → Session → List (Option Path)
  | [], _ => []
  | (c, text) :: rest, s =>
      let observed := (s.observe (c.serialize d.context)).1
      (d.writeFile d.strict (folderName c) (fileName c) text observed).2 ::
        d.answers rest (d.handOver c text observed)

/-- The texts of the artifacts of classes. -/
def Serialized (d : Dump) (classes : List AnnotatedClass) (texts : List String) : Prop :=
  List.Forall₂ (fun c text => (c.serialize d.context).outcome = .ok text) classes texts

theorem written_handOver (d : Dump) (c : AnnotatedClass) (text : String) (s : Session) :
    (d.handOver c text s).written = s.written ++
      (d.writeFile d.strict (folderName c) (fileName c) text s).2.toList := by
  rw [handOver]
  exact congrArg (· ++ _) (d.attempt_writeFile ..).written_eq

/-- The paths kept are those that the writer answered, in order. -/
theorem written_handOverAll (d : Dump) (pairs : List (AnnotatedClass × String)) (s : Session) :
    (d.handOverAll pairs s).written = s.written ++ (d.answers pairs s).filterMap id := by
  induction pairs generalizing s with
  | nil => simp [handOverAll, answers]
  | cons p rest ih =>
      obtain ⟨c, text⟩ := p
      rw [handOverAll, ih, written_handOver, answers, (s.noted_observe _).written,
        List.append_assoc]
      cases (d.writeFile d.strict (folderName c) (fileName c) text
        (s.observe (c.serialize d.context)).1).2 <;> simp

/-- Every text is answered, with the path of its class or not at all. -/
theorem forall₂_answers (d : Dump) (pairs : List (AnnotatedClass × String)) (s : Session) :
    List.Forall₂ (fun c answer => answer = none ∨ answer = some (d.artifactPath c))
      (pairs.map (·.1)) (d.answers pairs s) := by
  induction pairs generalizing s with
  | nil => exact .nil
  | cons p rest ih =>
      obtain ⟨c, text⟩ := p
      exact .cons (d.attempt_writeFile ..).answer_eq (ih _)

/-- The refusals of a run are reported, each once and at the severity of the run. -/
theorem length_reported_handOverAll (d : Dump) (pairs : List (AnnotatedClass × String))
    (s : Session) {severity : Severity} (serious : severity ≠ .info) :
    ((d.handOverAll pairs s).reported severity).length = (s.reported severity).length +
      if Generator.refusal d.strict = severity then (d.answers pairs s).countP Option.isNone
      else 0 := by
  induction pairs generalizing s with
  | nil => simp [handOverAll, answers]
  | cons p rest ih =>
      obtain ⟨c, text⟩ := p
      have observed := (s.noted_observe (c.serialize d.context)).reported serious
      have written : ((d.handOver c text (s.observe (c.serialize d.context)).1).reported
          severity).length = _ := d.length_reported_writeFile d.strict (folderName c) (fileName c)
        text (s.observe (c.serialize d.context)).1 serious
      rw [handOverAll, ih, written, observed, answers]
      split
      · simp only [List.countP_cons, List.countP_nil]
        omega
      · rfl

/-- The texts given to the writer are those of the classes before the first that does not
translate, and only such a class ends a run early. -/
theorem writeAll_hands_over (d : Dump) (classes : List AnnotatedClass) (s : Session) :
    let k := classes.findIdx fun c => !c.translates d.context
    ∃ texts, d.Serialized (classes.take k) texts ∧
      (d.handOverAll ((classes.take k).zip texts) s).Noted (d.writeAll classes s).1 ∧
      ((d.writeAll classes s).2 = .ok () ↔ k = classes.length) := by
  intro k
  induction classes generalizing s with
  | nil => exact ⟨[], .nil, .refl s, by simp [k, writeAll]⟩
  | cons c rest ih =>
      cases translates : c.translates d.context with
      | false =>
          have here : k = 0 := by simp [k, List.findIdx_cons, translates]
          obtain ⟨e, failed⟩ := AnnotatedClass.exists_error_of_not_translates translates
          rw [here, writeAll, writeClass_of_error failed]
          exact ⟨[], .nil, s.noted_observe _, by simp⟩
      | true =>
          have later : k = (rest.findIdx fun c => !c.translates d.context) + 1 := by
            simp [k, List.findIdx_cons, translates]
          obtain ⟨text, done⟩ := AnnotatedClass.exists_serialize_iff.mpr translates
          obtain ⟨texts, each, noted, ended⟩ :=
            ih (d.handOver c text (s.observe (c.serialize d.context)).1)
          rw [later, writeAll, writeClass_of_ok done]
          exact ⟨text :: texts, .cons done each, noted, by simpa using ended⟩

theorem Serialized.eq {d : Dump} {classes : List AnnotatedClass} {texts texts' : List String}
    (each : d.Serialized classes texts) (each' : d.Serialized classes texts') : texts = texts' := by
  refine List.right_unique_forall₂' ?_ each each'
  intro c text text' done done'
  exact Except.ok.inj (done.symm.trans done')

theorem Serialized.findIdx_eq {d : Dump} {classes : List AnnotatedClass} {texts : List String}
    (each : d.Serialized classes texts) :
    (classes.findIdx fun c => !c.translates d.context) = classes.length := by
  rw [List.findIdx_eq_length]
  induction each with
  | nil => simp
  | cons done _ ih =>
      refine List.forall_mem_cons.mpr ⟨?_, ih⟩
      rw [AnnotatedClass.exists_serialize_iff.mp ⟨_, done⟩]
      rfl

section Tally

variable {d : Dump} {pairs : List (AnnotatedClass × String)} {s s₀ after : Session}

theorem length_reported (before : s.Noted s₀) (noted : (d.handOverAll pairs s₀).Noted after)
    {severity : Severity} (serious : severity ≠ .info) :
    (after.reported severity).length = (s.reported severity).length +
      if Generator.refusal d.strict = severity then (d.answers pairs s₀).countP Option.isNone
      else 0 := by
  rw [noted.reported serious, d.length_reported_handOverAll pairs s₀ serious,
    before.reported serious]

theorem length_errors (before : s.Noted s₀) (noted : (d.handOverAll pairs s₀).Noted after) :
    after.errors.length = s.errors.length +
      if d.strict then (d.answers pairs s₀).countP Option.isNone else 0 := by
  refine (length_reported before noted (nofun : Severity.error ≠ .info)).trans ?_
  cases d.strict <;> rfl

theorem length_warnings (before : s.Noted s₀) (noted : (d.handOverAll pairs s₀).Noted after) :
    (Diagnostic.warnings after.diagnostics).length = (Diagnostic.warnings s.diagnostics).length +
      if d.strict then 0 else (d.answers pairs s₀).countP Option.isNone := by
  refine (length_reported before noted (nofun : Severity.warning ≠ .info)).trans ?_
  cases d.strict <;> rfl

end Tally

/-- A run gives the writer the texts of the classes found before the first that does not translate,
and such a class breaks it off. -/
theorem process_hands_over (d : Dump) {s s₀ : Session} {found : ClassSet}
    (discovered : d.discover d.directKind d.registryKind s = (s₀, .ok found)) :
    let classes := found.toList
    let k := classes.findIdx fun c => !c.translates d.context
    let run := d.process s
    ∃ texts, d.Serialized (classes.take k) texts ∧
      (d.handOverAll ((classes.take k).zip texts) s₀).Noted run.1 ∧
      ((∃ e, run.2 = .error (.misshapen e)) ↔ k < classes.length) ∧
      (k = classes.length → run.2 = .ok found.isNotEmpty) := by
  intro classes k run
  obtain ⟨texts, each, noted, ended⟩ := d.writeAll_hands_over classes s₀
  have ran : run = _ := process_of_discovered (congrArg Prod.snd discovered)
  rw [discovered] at ran
  rw [ran]
  refine ⟨texts, each, noted, ?_, ?_⟩
  · have le : k ≤ classes.length := List.findIdx_le_length
    have early : k < classes.length ↔ (d.writeAll classes s₀).2 ≠ .ok () := by
      rw [Ne, ended]
      omega
    rw [early]
    cases (d.writeAll classes s₀).2 with
    | error e => exact ⟨nofun, fun _ => ⟨e, rfl⟩⟩
    | ok =>
        refine ⟨?_, fun broke => absurd rfl broke⟩
        rintro ⟨_, broke⟩
        cases broke
  · intro all
    rw [ended.mpr all]
    rfl

end Dump

namespace CommandLine

open Files (FileTree)

theorem exitCode_eq_zero_iff {s : Session} : exitCode s = 0 ↔ s.errors.length = 0 := by
  rw [← Session.hasErrors_eq_false_iff, exitCode]
  cases s.hasErrors <;> simp

/-- No error is counted where refusals are warnings or nothing is refused. -/
theorem accepted_iff {strict : Bool} {answers : List (Option Files.Path)} :
    (if strict then answers.countP Option.isNone else 0) = 0 ↔ strict = false ∨ none ∉ answers := by
  cases strict with
  | false => simp
  | true =>
      rw [if_pos rfl, List.countP_eq_zero]
      constructor
      · exact fun each => .inr fun mem => each none mem rfl
      · rintro (strict | accepted) answer mem
        · cases strict
        · cases answer with
          | none => exact absurd mem accepted
          | some path => nofun

/-- A dump ends well exactly when the discovery does, every class translates, and no write is
refused unless refusals are warnings. -/
theorem ending_dump_eq_ok_zero_iff (palette : Palette) (d : Dump) {s : Session}
    (clean : s.errors = []) :
    (dump palette d s).ending = .ok 0 ↔
      ∃ s₀ found texts, d.discover d.directKind d.registryKind s = (s₀, .ok found) ∧
        d.Serialized found.toList texts ∧
        (d.strict = false ∨ none ∉ d.answers (found.toList.zip texts) s₀) := by
  cases discovered : d.discover d.directKind d.registryKind s with
  | mk s₀ outcome =>
    cases outcome with
    | error e =>
        have failed := Dump.process_of_undiscovered (congrArg Prod.snd discovered)
        rw [dump_of_error palette d s failed]
        exact ⟨nofun, fun ⟨_, _, _, same, _⟩ => nomatch same⟩
    | ok found =>
        obtain ⟨texts, each, noted, early, all⟩ := d.process_hands_over discovered
        have before := d.noted_discover d.directKind d.registryKind s
        rw [discovered] at before
        by_cases last : (found.toList.findIdx fun c => !c.translates d.context) =
            found.toList.length
        · have done : d.process s = ((d.process s).1, .ok found.isNotEmpty) :=
            Prod.ext rfl (all last)
          rw [ending_dump_of_ok palette d s done, Except.ok.injEq, exitCode_eq_zero_iff]
          rw [last, List.take_length] at each noted
          rw [Dump.length_errors before noted, clean, List.length_nil, Nat.zero_add, accepted_iff]
          constructor
          · exact fun accepted => ⟨s₀, found, texts, rfl, each, accepted⟩
          · rintro ⟨_, _, texts', same, each', accepted⟩
            cases same
            rw [each.eq each']
            exact accepted
        · -- A run that breaks off has a class among those found that does not translate.
          obtain ⟨e, broke⟩ := early.mpr (Nat.lt_of_le_of_ne List.findIdx_le_length last)
          rw [dump_of_error palette d s (Prod.ext rfl broke)]
          refine ⟨nofun, ?_⟩
          rintro ⟨_, _, _, same, each', _⟩
          cases same
          exact absurd each'.findIdx_eq last

/-- A run that finds classes asks the writer once for each class before the first that does not
translate, in order and whatever the writer answered before. It keeps the paths answered, reports
every refusal once, as an error where it is strict and as a warning elsewhere, and breaks off
exactly where there is a class that does not translate, with the files as the writer left them. So
on loaded inputs the command ends well exactly when the discovery and every translation do and
either it keeps going or no write is refused. -/
theorem dump_accounts_for_writes :
    (∀ (d : Dump) (s s₀ : Session) (found : ClassSet),
      d.discover d.directKind d.registryKind s = (s₀, .ok found) →
      let classes := found.toList
      let k := classes.findIdx fun c => !c.translates d.context
      let run := d.process s
      ∃ texts, d.Serialized (classes.take k) texts ∧
        let pairs := (classes.take k).zip texts
        let answers := d.answers pairs s₀
        let failures := answers.countP Option.isNone
        (d.handOverAll pairs s₀).Noted run.1 ∧
        List.Forall₂ (fun c answer => answer = none ∨ answer = some (d.artifactPath c))
          (classes.take k) answers ∧
        run.1.written = s.written ++ answers.filterMap id ∧
        run.1.errors.length = s.errors.length + (if d.strict then failures else 0) ∧
        (Diagnostic.warnings run.1.diagnostics).length =
          (Diagnostic.warnings s.diagnostics).length + (if d.strict then 0 else failures) ∧
        ((∃ e, run.2 = .error (.misshapen e)) ↔ k < classes.length) ∧
        (k = classes.length → run.2 = .ok found.isNotEmpty)) ∧
    (∀ (palette : Palette) (env : Environment) (files : FileTree) (declarations directKind : String)
        (registry : Option String) (configFile : Option Setting) (debug : Bool)
        (output : Option String) (keepGoing : Bool) (h : Host) (config : Config),
      let i : Invocation := ⟨declarations, .text directKind, registry, configFile, debug,
        .dump (output.map .text) keepGoing⟩
      prepare env i files = .ok (h, config) →
      let d := dumpOf h config directKind registry output keepGoing
      (execute palette env i files).ending = .ok 0 ↔
        ∃ s₀ found texts,
          d.discover directKind registry (.start config.debug files) = (s₀, .ok found) ∧
          d.Serialized found.toList texts ∧
          (keepGoing = true ∨ none ∉ d.answers (found.toList.zip texts) s₀)) := by
  refine ⟨?_, ?_⟩
  · intro d s s₀ found discovered classes k run
    obtain ⟨texts, each, noted, early, all⟩ := d.process_hands_over discovered
    have before := d.noted_discover d.directKind d.registryKind s
    rw [discovered] at before
    have written := noted.written
    rw [d.written_handOverAll, before.written] at written
    have answered := d.forall₂_answers ((classes.take k).zip texts) s₀
    rw [List.map_fst_zip (Nat.le_of_eq each.length_eq)] at answered
    exact ⟨texts, each, noted, answered, written, Dump.length_errors before noted,
      Dump.length_warnings before noted, early, all⟩
  · intro palette env files declarations directKind registry configFile debug output keepGoing h
      config i loaded d
    have strict : d.strict = false ↔ keepGoing = true := by simp [d, dumpOf]
    have iff := ending_dump_eq_ok_zero_iff palette d (s := .start config.debug files) rfl
    simp only [strict] at iff
    rw [execute_of_prepare palette loaded, perform_dump]
    exact iff

/-- A dump into the working directory of classes annotated `Tag`, each with one field. -/
def dumpOfFields (fields : List (String × SourceType)) : Dump where
  toGenerator :=
    let withField (field : String × SourceType) : ClassDecl :=
      ⟨field.1, .plainClass, none, [], [⟨"Tag", []⟩], [], [⟨"f", field.2, [], []⟩], [], []⟩
    .ofConfig (.ofDeclarations ⟨fields.map withField⟩ false)
      { Config.standard with outputDirectory := "." } Context.standardUnsupported
  directKind := "Tag"
  registryKind := none
  strict := true

/-- A file that declares one annotated class. -/
def oneClass : FileTree where
  entries :=
    let content := "classes:\n- name: A\n  annotations:\n  - kind: T\n"
    [(["d"], .file content.toUTF8.toList)]
  workingDirectory := []

/-- With a file in the place of the second folder and no type in the third class, the first class
alone is written, and the fourth is not reached. -/
theorem dump_accounts_for_writes_blockedFolder :
    let int := SourceType.plain "int" []
    let d := dumpOfFields [("a.A", int), ("b.B", int), ("c.C", .wildcard .producer none []),
      ("d.D", int)]
    let s := Session.start false ⟨[(["b"], .file [])], []⟩
    let i : Invocation := ⟨"d", .text "T", none, none, false, .dump none false⟩
    (∃ s₀ found texts, d.discover "Tag" none s = (s₀, .ok found) ∧ found.toList.length = 4 ∧
      d.Serialized (found.toList.take 2) texts ∧
      (d.process s).1.written =
        (d.answers ((found.toList.take 2).zip texts) s₀).filterMap id ∧
      (d.process s).1.written.length = 1 ∧
      (d.answers ((found.toList.take 2).zip texts) s₀).countP Option.isNone = 1 ∧
      ∃ e, (d.process s).2 = .error (.misshapen e)) ∧
    ∃ h config, prepare [] i oneClass = .ok (h, config) ∧
      (execute .plain [] i oneClass).ending = .ok 0 ∧
      let d := dumpOf h config "T" none none false
      ∃ s₀ found texts, d.discover "T" none (.start config.debug oneClass) = (s₀, .ok found) ∧
        d.Serialized found.toList texts ∧ none ∉ d.answers (found.toList.zip texts) s₀ := by
  intro int d s i
  obtain ⟨account, endings⟩ := dump_accounts_for_writes
  constructor
  · have classes : (d.discover "Tag" none s).2.toOption.any (fun found =>
        found.toList.length = 4 ∧ (found.toList.findIdx fun c => !c.translates d.context) = 2) =
        true := by
      decide +kernel
    have counts : (d.process s).1.written.length = 1 ∧ (d.process s).1.errors.length = 1 := by
      decide +kernel
    cases discovered : d.discover "Tag" none s with
    | mk s₀ outcome =>
      rw [discovered] at classes
      cases outcome with
      | error e => cases classes
      | ok found =>
          obtain ⟨four, two⟩ := of_decide_eq_true classes
          obtain ⟨texts, each, _, _, written, errors, _, early, _⟩ :=
            account d s s₀ found discovered
          rw [two] at each written errors early
          rw [four] at early
          refine ⟨s₀, found, texts, rfl, four, each, written, counts.1, ?_, early.mpr (by decide)⟩
          rw [counts.2] at errors
          exact (errors.trans (Nat.zero_add _)).symm
  · have ended : (execute .plain [] i oneClass).ending = .ok 0 :=
      FirstFailure.eq_ok_of_toOption (by decide +kernel)
    cases loaded : prepare [] i oneClass with
    | error trouble =>
        rw [execute, loaded] at ended
        cases trouble <;> cases ended
    | ok p =>
        obtain ⟨h, config⟩ := p
        obtain ⟨s₀, found, texts, discovered, each, kept | accepted⟩ :=
          (endings .plain [] oneClass "d" "T" none none false none false h config loaded).mp ended
        · cases kept
        · exact ⟨h, config, rfl, ended, s₀, found, texts, discovered, each, accepted⟩

end CommandLine
end ClassAtlas
