import ClassAtlas.Proofs.CheckedArtifacts
import ClassAtlas.Proofs.DumpRun
import ClassAtlas.Proofs.InspectionRun
import ClassAtlas.Proofs.LoadingOutcome

/-!
Inspections and dumps of one round. Both break off on the same failure, if on any; a file that
cannot be written does not count. Otherwise an inspection prints what the artifacts of the dump
state.
-/
namespace ClassAtlas.CommandLine

open Files (FileTree)

/-- The dump of a round into a folder, by default into the configured one. -/
def dumpOf (h : Host) (config : Config) (directKind : String) (registry output : Option String)
    (keepGoing : Bool) : Dump where
  toGenerator :=
    { Generator.ofConfig h config Context.standardUnsupported with
      outputDirectory := output.getD config.outputDirectory }
  directKind := directKind
  registryKind := registry
  strict := !keepGoing

section Alike

variable (palette : Palette) (d : Dump) (s : Session)

theorem dump_of_error {s' : Session} {e : GenerationError} (failed : d.process s = (s', .error e)) :
    dump palette d s = broken [] s' e.message := by
  rw [dump, failed]

theorem ending_dump_of_ok {s' : Session} {claimed : Bool} (done : d.process s = (s', .ok claimed)) :
    (dump palette d s).ending = .ok (exitCode s') := by
  rw [dump, done, exitCode]
  dsimp only
  cases s'.hasErrors <;> rfl

/-- How an inspection and a dump of one state go: either both break off on one failure, or every
class found has a record, of which the one prints the lines and the other hands over the text. -/
inductive Alike : Prop where
  | broken (e : GenerationError) {s' s'' : Session} {lines : List String}
      (failed : d.process s = (s', .error e))
      (broke : inspect palette d.toGenerator d.directKind d.registryKind s =
        CommandLine.broken lines s'' e.message)
  | complete (records : List ClassRecord) {s₀ s'' : Session} {found : ClassSet}
      (discovered : d.discover d.directKind d.registryKind s = (s₀, .ok found))
      (recorded : ClassRecord.ofClasses d.context found.toList = .ok records)
      (done : d.process s =
        (d.handOverAll (Dump.texts found.toList records) s₀, .ok found.isNotEmpty))
      (printed : inspect palette d.toGenerator d.directKind d.registryKind s =
        ⟨unlines (Inspect.report palette records), log s'', s''.files, .ok 0⟩)

theorem alike (clean : s.hasErrors = false) : Alike palette d s := by
  cases discovered : d.discover d.directKind d.registryKind s with
  | mk s₀ outcome =>
    cases outcome with
    | error e =>
        have failed : d.process s = (s₀, .error (.undiscovered e)) := by
          rw [Dump.process, discovered]
        have broke : inspect palette d.toGenerator d.directKind d.registryKind s =
            broken [] s₀ e.message := by
          rw [inspect, discovered]
        exact .broken _ failed broke
    | ok found =>
        cases recorded : ClassRecord.ofClasses d.context found.toList with
        | error e =>
            obtain ⟨s', stopped⟩ := Dump.writeAll_of_error recorded s₀
            obtain ⟨s'', lines, broke⟩ := Inspect.inspect_of_error palette discovered recorded
            have failed : d.process s = (s', .error (.misshapen e)) := by
              rw [Dump.process, discovered]
              dsimp only
              rw [stopped]
            exact .broken _ failed broke
        | ok records =>
            obtain ⟨s'', _, printed⟩ := Inspect.inspect_of_ok palette clean discovered recorded
            have done : d.process s = (d.handOverAll (Dump.texts found.toList records) s₀,
                .ok found.isNotEmpty) := by
              rw [Dump.process, discovered]
              dsimp only
              rw [Dump.writeAll_of_ok recorded]
            exact .complete records discovered recorded done printed

theorem ending_inspect_iff (clean : s.hasErrors = false) :
    (inspect palette d.toGenerator d.directKind d.registryKind s).ending = .ok 1 ↔
      ∃ e, (d.process s).2 = .error e := by
  cases alike palette d s clean with
  | broken e failed broke =>
      rw [broke, failed]
      exact ⟨fun _ => ⟨e, rfl⟩, fun _ => rfl⟩
  | complete records discovered recorded done printed =>
      rw [printed, done]
      exact ⟨nofun, nofun⟩

theorem broken_of_error (clean : s.hasErrors = false) {e : GenerationError}
    (failed : (d.process s).2 = .error e) :
    (∃ lines s', inspect palette d.toGenerator d.directKind d.registryKind s =
      broken lines s' e.message) ∧ ∃ s', dump palette d s = broken [] s' e.message := by
  cases alike palette d s clean with
  | broken e' failed' broke =>
      rw [failed'] at failed
      cases failed
      exact ⟨⟨_, _, broke⟩, _, dump_of_error palette d s failed'⟩
  | complete records discovered recorded done printed =>
      rw [done] at failed
      cases failed

theorem complete_of_ok (clean : s.hasErrors = false) {s' : Session} {claimed : Bool}
    (done : d.process s = (s', .ok claimed)) :
    ∃ s₀ found records, d.discover d.directKind d.registryKind s = (s₀, .ok found) ∧
      ClassRecord.ofClasses d.context found.toList = .ok records ∧
      s' = d.handOverAll (Dump.texts found.toList records) s₀ ∧
      let inspected := inspect palette d.toGenerator d.directKind d.registryKind s
      inspected.ending = .ok 0 ∧ inspected.printed = unlines (Inspect.report palette records) := by
  cases alike palette d s clean with
  | broken e failed broke =>
      rw [failed] at done
      cases done
  | complete records discovered recorded done' printed =>
      rw [done'] at done
      cases done
      rw [printed]
      exact ⟨_, _, records, discovered, recorded, rfl, rfl, rfl⟩

end Alike

theorem exists_check_of_prepare {env : Environment} {i : Invocation} {files : FileTree} {h : Host}
    {config : Config} (loaded : prepare env i files = .ok (h, config)) :
    ∃ v d, Declarations.check v = .pass d ∧ h = .ofDeclarations d true := by
  simp only [prepare, bind, Except.bind] at loaded
  split at loaded
  · cases loaded
  split at loaded
  · cases loaded
  split at loaded
  · cases loaded
  next d read =>
    cases loaded
    obtain ⟨v, passed⟩ :=
      Declarations.exists_check_of_load (FirstFailure.mapError_eq_ok_iff.mp read)
    exact ⟨v, d, passed, rfl⟩

theorem execute_of_prepare (palette : Palette) {env : Environment} {i : Invocation}
    {files : FileTree} {h : Host} {config : Config}
    (loaded : prepare env i files = .ok (h, config)) :
    execute palette env i files = perform palette i h config files := by
  rw [execute, loaded]

theorem perform_dump (palette : Palette) (h : Host) (config : Config) (files : FileTree)
    (declarations directKind : String) (registry : Option String) (configFile : Option Setting)
    (debug : Bool) (output : Option String) (keepGoing : Bool) :
    perform palette ⟨declarations, .text directKind, registry, configFile, debug,
        .dump (output.map .text) keepGoing⟩ h config files =
      dump palette (dumpOf h config directKind registry output keepGoing)
        (.start config.debug files) := by
  cases output <;> rfl

/-- The artifacts of a round on loaded declarations are read back as the records they come from. -/
theorem stated_of_prepare {env : Environment} {i : Invocation} {files : FileTree} {h : Host}
    {config : Config} (loaded : prepare env i files = .ok (h, config)) {g : Generator}
    (onFile : g.host = h) {directKind : String} {registryKind : Option String} {s s₀ : Session}
    {found : ClassSet} (discovered : g.discover directKind registryKind s = (s₀, .ok found))
    {records : List ClassRecord}
    (recorded : ClassRecord.ofClasses g.context found.toList = .ok records) :
    ClassRecord.Stated g.context found.toList (records.map ClassRecord.serialize)
      (records.map ClassRecord.asRead) records := by
  obtain ⟨v, d, passed, rfl⟩ := exists_check_of_prepare loaded
  have each : List.Forall₂ (ClassRecord.Describes g.context) found.toList records :=
    (ClassRecord.ofClasses_eq_ok_iff.mp recorded).imp fun _ _ => ClassRecord.ofClass_eq_ok_iff.mp
  refine ClassRecord.stated_of_forall₂ each (ClassRecord.read_serialize_of_forall₂ each ?_)
  cases done : Discovery.discover g.host directKind registryKind with
  | error e =>
      rw [Generator.discover_of_error done] at discovered
      cases discovered
  | ok all =>
      rw [Generator.discover_of_ok done] at discovered
      cases discovered
      rw [onFile] at done
      exact fun c mem => Discovery.depth_le_of_mem_found passed done mem g.context.unsupported

/-- On loaded inputs an inspection breaks off exactly when the dump does, and with the same message.
Otherwise it prints the records that the texts of the dump state when they are read back, class by
class in the order in which the dump hands them over, whichever of them could be written. -/
theorem inspect_agrees_with_dump (palette : Palette) (env : Environment) (files : FileTree)
    (declarations directKind : String) (registry : Option String) (configFile : Option Setting)
    (debug : Bool) (output : Option String) (keepGoing : Bool) (h : Host) (config : Config)
    (loaded : prepare env ⟨declarations, .text directKind, registry, configFile, debug, .inspect⟩
      files = .ok (h, config)) :
    let invocation (task : Task) : Invocation :=
      ⟨declarations, .text directKind, registry, configFile, debug, task⟩
    let inspected := execute palette env (invocation .inspect) files
    let dumped := execute palette env (invocation (.dump (output.map .text) keepGoing)) files
    let d := dumpOf h config directKind registry output keepGoing
    let start := Session.start config.debug files
    (inspected.ending = .ok 1 ↔ ∃ e, (d.process start).2 = .error e) ∧
    (∀ e, (d.process start).2 = .error e →
      (∃ lines s, inspected = broken lines s e.message) ∧ ∃ s, dumped = broken [] s e.message) ∧
    (∀ s' claimed, d.process start = (s', .ok claimed) →
      inspected.ending = .ok 0 ∧ dumped.ending = .ok (exitCode s') ∧
      ∃ s₀ found texts reads records,
        d.discover directKind registry start = (s₀, .ok found) ∧
        s' = d.handOverAll (found.toList.zip texts) s₀ ∧
        ClassRecord.Stated d.context found.toList texts reads records ∧
        inspected.printed = unlines (Inspect.report palette records)) := by
  intro invocation inspected dumped d start
  -- Loading does not look at the task, so the dump has the same host and configuration.
  have loaded' : prepare env (invocation (.dump (output.map .text) keepGoing)) files =
      .ok (h, config) := loaded
  have ran : inspected = inspect palette d.toGenerator directKind registry start :=
    execute_of_prepare palette loaded
  have ran' : dumped = dump palette d start :=
    (execute_of_prepare palette loaded').trans (perform_dump palette ..)
  rw [ran, ran']
  refine ⟨ending_inspect_iff palette d start rfl,
    fun e failed => broken_of_error palette d start rfl failed, ?_⟩
  intro s' claimed done
  obtain ⟨s₀, found, records, discovered, recorded, handed, ended, printed⟩ :=
    complete_of_ok palette d start rfl done
  exact ⟨ended, ending_dump_of_ok palette d start done, s₀, found, _, _, records, discovered,
    handed, stated_of_prepare loaded rfl discovered recorded, printed⟩

/-- Declarations of a class and, after it, of the class whose registry annotation lists it. -/
def listedFirst : String :=
  String.join
    ["classes:\n- name: b.B\n- name: a.A\n", "  annotations: [\x7bkind: T\x7d, \x7bkind: R, ",
      "values: \x7bvalue: b.B\x7d\x7d]\n", "  fields: [\x7bname: f, type: \x7bkind: array, ",
      "component_type: \x7bkind: array, ",
      "component_type: \x7bkind: plain, name: X\x7d\x7d\x7d\x7d]\n"]

/-- A file of declarations and a configuration that renames a part of a field type in them. -/
def twoClasses : FileTree where
  entries :=
    [(["d"], .file listedFirst.toUTF8.toList), (["c"], .file "renaming:\n  X: Y\n".toUTF8.toList)]
  workingDirectory := []

/-- The class with the direct annotation comes first, though it is declared last. -/
theorem inspect_agrees_with_dump_twoClasses :
    let i : Invocation := ⟨"d", .text "T", some "R", some (.text "c"), false, .inspect⟩
    let inspected := execute .plain [] i twoClasses
    ∃ h config, prepare [] i twoClasses = .ok (h, config) ∧
      let d := dumpOf h config "T" (some "R") none false
      ∃ s', d.process (.start config.debug twoClasses) = (s', .ok true) ∧
        inspected.ending = .ok 0 ∧
        inspected.printed = unlines
          ["a.A [external] (namespace: a)", "  f: kotlin.Array<kotlin.Array<Y>> (direct)",
            "b.B [external] (namespace: b)", "  (no properties)"] ∧
        ∃ found texts reads records,
          ClassRecord.Stated d.context found texts reads records ∧
          inspected.printed = unlines (Inspect.report .plain records) := by
  intro i
  dsimp only
  have located : twoClasses.locate (.ofText "d") = .ok ["d"] :=
    FirstFailure.eq_ok_of_toOption (by decide +kernel)
  have load := Declarations.load_of_read (FileTree.read_eq_ok_iff.mpr ⟨_, located, rfl⟩)
  -- A long literal takes the kernel too long to spell out; its parts do not.
  rw [listedFirst, String.toList_join] at load
  have ends : (prepare [] i twoClasses).toOption.map (fun p =>
      (((dumpOf p.1 p.2 "T" (some "R") none false).process (.start p.2.debug twoClasses)).2.toOption,
        (perform .plain i p.1 p.2 twoClasses).printed)) =
      some (some true, unlines
        ["a.A [external] (namespace: a)", "  f: kotlin.Array<kotlin.Array<Y>> (direct)",
          "b.B [external] (namespace: b)", "  (no properties)"]) := by
    rw [prepare, readDeclarations, load, Declarations.parse, Document.value, Yaml.load,
      Yaml.Token.scan, String.toList_ofList]
    decide +kernel
  cases loaded : prepare [] i twoClasses with
  | error trouble =>
      rw [loaded] at ends
      cases ends
  | ok p =>
      obtain ⟨h, config⟩ := p
      rw [loaded] at ends
      obtain ⟨claimed, text⟩ := Prod.mk.inj (Option.some.inj ends)
      have done := FirstFailure.eq_ok_of_toOption claimed
      obtain ⟨_, _, agree⟩ := inspect_agrees_with_dump .plain [] twoClasses "d" "T" (some "R")
        (some (.text "c")) false none false h config loaded
      obtain ⟨ended, _, _, found, texts, reads, records, _, _, stated, printed⟩ :=
        agree _ true (Prod.ext rfl done)
      refine ⟨h, config, rfl, _, Prod.ext rfl done, ended, ?_, found.toList, texts, reads, records,
        stated, printed⟩
      rw [execute_of_prepare .plain loaded]
      exact text

end ClassAtlas.CommandLine
