import Mathlib.Data.List.Perm.Basic
import ClassAtlas.CommandLine.Run
import ClassAtlas.Proofs.DumpRun

/-!
Runs that do not debug beside runs that may. Every step takes two states that differ by notes alone
to two such states and answers the same in both, so notes are all that debugging adds to a run.
-/
namespace ClassAtlas

namespace Diagnostic

/-- Diagnostics, and the same with notes among them. -/
inductive NotedMore : List Diagnostic → List Diagnostic → Prop where
  | nil : NotedMore [] []
  | both (d : Diagnostic) {ds more : List Diagnostic} (rest : NotedMore ds more) :
      NotedMore (d :: ds) (d :: more)
  | note {d : Diagnostic} (info : d.severity = .info) {ds more : List Diagnostic}
      (rest : NotedMore ds more) : NotedMore ds (d :: more)

namespace NotedMore

variable {ds more es others : List Diagnostic}

theorem refl (ds : List Diagnostic) : NotedMore ds ds := by
  induction ds with
  | nil => exact .nil
  | cons d rest ih => exact .both d ih

theorem append (first : NotedMore ds more) (second : NotedMore es others) :
    NotedMore (ds ++ es) (more ++ others) := by
  induction first with
  | nil => exact second
  | both d _ ih => exact .both d ih
  | note info _ ih => exact .note info ih

theorem of_notes {notes : List Diagnostic} (infos : ∀ d ∈ notes, d.severity = .info) :
    NotedMore [] notes := by
  induction notes with
  | nil => exact .nil
  | cons d rest ih =>
      obtain ⟨info, infos⟩ := List.forall_mem_cons.mp infos
      exact .note info (ih infos)

theorem sublist (noted : NotedMore ds more) : ds.Sublist more := by
  induction noted with
  | nil => exact .slnil
  | both d _ ih => exact ih.cons_cons d
  | note _ _ ih => exact ih.cons _

/-- Beyond the diagnostics of the one list, the other has notes. -/
theorem exists_perm (noted : NotedMore ds more) :
    ∃ notes : List Diagnostic, (∀ d ∈ notes, d.severity = .info) ∧ more.Perm (ds ++ notes) := by
  induction noted with
  | nil => exact ⟨[], by simp, .refl _⟩
  | both d _ ih =>
      obtain ⟨notes, infos, same⟩ := ih
      exact ⟨notes, infos, same.cons d⟩
  | @note d info _ _ _ ih =>
      obtain ⟨notes, infos, same⟩ := ih
      refine ⟨d :: notes, List.forall_mem_cons.mpr ⟨info, infos⟩, ?_⟩
      exact (same.cons d).trans List.perm_middle.symm

theorem hasErrors_eq (noted : NotedMore ds more) : hasErrors more = hasErrors ds := by
  induction noted with
  | nil => rfl
  | both d _ ih => exact congrArg (d.isError || ·) ih
  | @note d info _ _ _ ih =>
      rw [hasErrors, List.any_cons, isError, info]
      exact ih

end NotedMore
end Diagnostic

namespace Session

/-- A state of a run that does not debug, beside one of a run that may. -/
structure Quieter (off on : Session) : Prop where
  quiet : off.debug = false
  files : on.files = off.files
  written : on.written = off.written
  diagnostics : Diagnostic.NotedMore off.diagnostics on.diagnostics

theorem traceAll_of_quiet {s : Session} (quiet : s.debug = false) (messages : List String) :
    s.traceAll messages = s := by
  obtain ⟨debug, files, diagnostics, written⟩ := s
  cases quiet
  simp [traceAll_eq]

namespace Quieter

variable {off on on' : Session}

/-- What is noted in the other run alone does not count. -/
theorem noted (quieter : Quieter off on) (noted : on.Noted on') : Quieter off on' := by
  obtain ⟨notes, infos, added⟩ := noted.diagnostics
  refine ⟨quieter.quiet, noted.files.trans quieter.files, noted.written.trans quieter.written, ?_⟩
  rw [added, ← List.append_nil off.diagnostics]
  exact quieter.diagnostics.append (.of_notes infos)

theorem traceAll (quieter : Quieter off on) (messages : List String) :
    Quieter (off.traceAll messages) (on.traceAll messages) := by
  rw [traceAll_of_quiet quieter.quiet]
  exact quieter.noted (on.noted_traceAll messages)

theorem trace (quieter : Quieter off on) (message : String) :
    Quieter (off.trace message) (on.trace message) := quieter.traceAll [message]

theorem observe {α : Type} (quieter : Quieter off on) (x : Traced α) :
    Quieter (off.observe x).1 (on.observe x).1 := quieter.traceAll _

theorem report (quieter : Quieter off on) (severity : Severity) (message : RawText) :
    Quieter (off.report severity message) (on.report severity message) where
  quiet := quieter.quiet
  files := quieter.files
  written := quieter.written
  diagnostics := quieter.diagnostics.append (.refl _)

theorem withFiles (quieter : Quieter off on) (files : Files.FileTree) :
    Quieter { off with files } { on with files } :=
  ⟨quieter.quiet, rfl, quieter.written, quieter.diagnostics⟩

theorem withPath (quieter : Quieter off on) (path : Option Files.Path) :
    Quieter { off with written := off.written ++ path.toList }
      { on with written := on.written ++ path.toList } :=
  ⟨quieter.quiet, quieter.files, congrArg (· ++ path.toList) quieter.written, quieter.diagnostics⟩

theorem hasErrors_eq (quieter : Quieter off on) : on.hasErrors = off.hasErrors :=
  quieter.diagnostics.hasErrors_eq

end Quieter

theorem quieter_start (debug : Bool) (files : Files.FileTree) :
    Quieter (start false files) (start debug files) := ⟨rfl, rfl, rfl, .nil⟩

end Session

namespace Generator

open Session

variable {off on : Session}

theorem quieter_writeFile (g : Generator) (strict : Bool) (directory file : String)
    (content : RawText) (quieter : Quieter off on) :
    let one := g.writeFile strict directory file content off
    let other := g.writeFile strict directory file content on
    Quieter one.1 other.1 ∧ other.2 = one.2 := by
  have traced := quieter.trace (g.folder directory).text
  rw [writeFile, writeFile]
  dsimp only
  rw [traced.files]
  split
  case h_1 files e failed => exact ⟨((traced.withFiles files).report ..).report .., rfl⟩
  case h_2 files done =>
    have again := (traced.withFiles files).trace
      ((g.folder directory).join (Files.Path.ofText file)).text
    cases content.encode with
    | error e => exact ⟨(again.report ..).report .., rfl⟩
    | ok bytes =>
        dsimp only
        rw [again.files]
        split
        case h_1 e failed => exact ⟨(again.report ..).report .., rfl⟩
        case h_2 after wrote => exact ⟨again.withFiles after, rfl⟩

theorem quieter_discover (g : Generator) (directKind : String) (registryKind : Option String)
    (quieter : Quieter off on) :
    let one := g.discover directKind registryKind off
    let other := g.discover directKind registryKind on
    Quieter one.1 other.1 ∧ other.2 = one.2 := by
  rw [discover, discover]
  split
  case h_1 => exact ⟨quieter, rfl⟩
  case h_2 found _ =>
    have traced := quieter.traceAll found.trace
    dsimp only
    split
    · exact ⟨traced.report .., rfl⟩
    · exact ⟨traced, rfl⟩

end Generator

namespace Dump

open Session

variable {off on : Session}

theorem quieter_handOver (d : Dump) (c : AnnotatedClass) (text : String)
    (quieter : Quieter off on) : Quieter (d.handOver c text off) (d.handOver c text on) := by
  obtain ⟨after, same⟩ := d.quieter_writeFile d.strict (folderName c) (fileName c) text quieter
  rw [handOver, handOver]
  dsimp only
  rw [same]
  exact after.withPath _

theorem quieter_writeAll (d : Dump) (classes : List AnnotatedClass) (quieter : Quieter off on) :
    Quieter (d.writeAll classes off).1 (d.writeAll classes on).1 ∧
      (d.writeAll classes on).2 = (d.writeAll classes off).2 := by
  induction classes generalizing off on with
  | nil => exact ⟨quieter, rfl⟩
  | cons c rest ih =>
      have observed := quieter.observe (c.serialize d.context)
      cases text : (c.serialize d.context).outcome with
      | error e =>
          rw [writeAll, writeAll, writeClass_of_error text, writeClass_of_error text]
          exact ⟨observed, rfl⟩
      | ok text' =>
          rw [writeAll, writeAll, writeClass_of_ok text, writeClass_of_ok text]
          exact ih (d.quieter_handOver c text' observed)

theorem quieter_process (d : Dump) (quieter : Quieter off on) :
    Quieter (d.process off).1 (d.process on).1 ∧ (d.process on).2 = (d.process off).2 := by
  obtain ⟨discovered, same⟩ := d.quieter_discover d.directKind d.registryKind quieter
  cases outcome : (d.discover d.directKind d.registryKind off).2 with
  | error e =>
      rw [process_of_undiscovered outcome, process_of_undiscovered (same.trans outcome)]
      exact ⟨discovered, rfl⟩
  | ok found =>
      obtain ⟨written, same'⟩ := d.quieter_writeAll found.toList discovered
      rw [process_of_discovered outcome, process_of_discovered (same.trans outcome), same']
      exact ⟨written, rfl⟩

end Dump

namespace CommandLine

open Files (FileTree)
open Session

/-- Outcomes of two runs that differ by what was logged alone. -/
structure Outcome.SameButLog (one other : Outcome) : Prop where
  printed : other.printed = one.printed
  files : other.files = one.files
  ending : other.ending = one.ending

variable {off on : Session}

theorem sameButLog_broken (lines : List String) (message : String) (quieter : Quieter off on) :
    (broken lines off message).SameButLog (broken lines on message) := ⟨rfl, quieter.files, rfl⟩

theorem sameButLog_idle (palette : Palette) (task : Task) (quieter : Quieter off on) :
    (idle palette task off).SameButLog (idle palette task on) := ⟨rfl, quieter.files, rfl⟩

theorem sameButLog_failed (failure : Failure) (quieter : Quieter off on) :
    (failed off failure).SameButLog (failed on failure) := ⟨rfl, quieter.files, rfl⟩

theorem sameButLog_dump (palette : Palette) (d : Dump) (quieter : Quieter off on) :
    (dump palette d off).SameButLog (dump palette d on) := by
  obtain ⟨after, same⟩ := d.quieter_process quieter
  rw [dump, dump]
  revert after same
  cases d.process off with
  | mk off' result =>
    cases d.process on with
    | mk on' result' =>
      rintro after rfl
      cases result' with
      | error e => exact sameButLog_broken [] e.message after
      | ok claimed =>
          dsimp only
          rw [after.hasErrors_eq, after.written]
          cases off'.hasErrors <;> exact ⟨rfl, after.files, rfl⟩

theorem sameButLog_dumpNowhere (palette : Palette) (d : Dump) (quieter : Quieter off on) :
    (dumpNowhere palette d off).SameButLog (dumpNowhere palette d on) := by
  obtain ⟨after, same⟩ := d.quieter_discover d.directKind d.registryKind quieter
  rw [dumpNowhere, dumpNowhere]
  revert after same
  cases d.discover d.directKind d.registryKind off with
  | mk off' outcome =>
    cases d.discover d.directKind d.registryKind on with
    | mk on' outcome' =>
      rintro after rfl
      cases outcome' with
      | error e => exact sameButLog_broken [] e.message after
      | ok found =>
          dsimp only
          cases found.toList with
          | nil => exact sameButLog_idle palette _ after
          | cons c rest =>
              have observed := after.observe (c.serialize d.context)
              dsimp only [Session.observe] at observed ⊢
              cases (c.serialize d.context).outcome with
              | error e => exact sameButLog_broken [] e.message observed
              | ok text => exact sameButLog_failed _ observed

theorem sameButLog_performUnmarked (palette : Palette) (g : Generator) (i : Invocation)
    (quieter : Quieter off on) :
    (performUnmarked palette g i off).SameButLog (performUnmarked palette g i on) := by
  rw [performUnmarked, performUnmarked]
  cases i.registry.elim (.ok []) (Discovery.registryClasses g.host) with
  | error e => exact sameButLog_broken [] e.message quieter
  | ok classes =>
      have traced := quieter.traceAll (Discovery.Found.trace ⟨[], classes⟩)
      dsimp only
      split
      · exact sameButLog_idle palette _ traced
      · exact sameButLog_failed _ traced

theorem sameButLog_perform_dump (palette : Palette) (i : Invocation) (output : Option Setting)
    (keepGoing : Bool) (h : Host) (config : Config) (debug : Bool) (files : FileTree) :
    (perform palette { i with task := .dump output keepGoing } h { config with debug := false }
      files).SameButLog
    (perform palette { i with task := .dump output keepGoing } h { config with debug := debug }
      files) := by
  obtain ⟨declarations, direct, registry, configFile, flag, task⟩ := i
  have quieter := quieter_start debug files
  cases direct with
  | blank => exact sameButLog_performUnmarked palette _ _ quieter
  | text directKind =>
      cases output with
      | none => exact sameButLog_dump palette _ quieter
      | some folder =>
          cases folder with
          | blank => exact sameButLog_dumpNowhere palette _ quieter
          | text directory => exact sameButLog_dump palette _ quieter

/-- Loading goes the same way whether or not debugging is asked for. -/
theorem prepare_debug (env : Environment) (i : Invocation) (debug : Bool) (files : FileTree) :
    prepare env { i with debug := debug } files =
      (prepare env { i with debug := false } files).map fun loaded =>
        (loaded.1, { loaded.2 with debug := loaded.2.debug || debug }) := by
  simp only [prepare, bind, Except.bind]
  split
  · rfl
  split
  · rfl
  split
  · rfl
  · simp [pure, Except.pure, Except.map]

theorem sameButLog_execute_dump (palette : Palette) (env : Environment) (i : Invocation)
    (output : Option Setting) (keepGoing : Bool) (files : FileTree) :
    let run (debug : Bool) := execute palette env
      { i with task := .dump output keepGoing, debug := debug } files
    (run false).SameButLog (run true) := by
  intro run
  have loading := prepare_debug env { i with task := .dump output keepGoing } true files
  simp only [run, execute]
  rw [loading]
  cases prepare env { i with task := .dump output keepGoing, debug := false } files with
  | error trouble => cases trouble <;> exact ⟨rfl, rfl, rfl⟩
  | ok loaded =>
      -- A configuration that asks for debugging has both runs debug.
      obtain ⟨h, ⟨debug, directory, unsupported, markers, renamed⟩⟩ := loaded
      cases debug with
      | false =>
          exact sameButLog_perform_dump palette i output keepGoing h
            ⟨false, directory, unsupported, markers, renamed⟩ true files
      | true => exact ⟨rfl, rfl, rfl⟩

/-- A dump that debugs leaves the same files, keeps the same paths and gives the same answer or
error as one that does not, and its diagnostics are those of the other with notes among them. So
what the command prints, which files it leaves and how it ends does not depend on the debug flag of
the configuration, nor on that of the command line. -/
theorem dump_same_with_debug :
    (∀ (d : Dump) (files : FileTree),
      let off := d.process (.start false files)
      let on := d.process (.start true files)
      on.1.files = off.1.files ∧ on.1.written = off.1.written ∧ on.2 = off.2 ∧
      off.1.diagnostics.Sublist on.1.diagnostics ∧
      ∃ notes : List Diagnostic, (∀ note ∈ notes, note.severity = .info) ∧
        on.1.diagnostics.Perm (off.1.diagnostics ++ notes)) ∧
    (∀ (palette : Palette) (i : Invocation) (output : Option Setting) (keepGoing : Bool) (h : Host)
        (config : Config) (files : FileTree),
      let run (debug : Bool) := perform palette { i with task := .dump output keepGoing } h
        { config with debug := debug } files
      (run false).SameButLog (run true)) ∧
    ∀ (palette : Palette) (env : Environment) (i : Invocation) (output : Option Setting)
        (keepGoing : Bool) (files : FileTree),
      let run (debug : Bool) := execute palette env
        { i with task := .dump output keepGoing, debug := debug } files
      (run false).SameButLog (run true) := by
  refine ⟨fun d files => ?_, ?_, sameButLog_execute_dump⟩
  · obtain ⟨quieter, same⟩ := d.quieter_process (quieter_start true files)
    have noted := quieter.diagnostics
    exact ⟨quieter.files, quieter.written, same, noted.sublist, noted.exists_perm⟩
  · intro palette i output keepGoing h config files
    exact sameButLog_perform_dump palette i output keepGoing h config true files

end CommandLine
end ClassAtlas
