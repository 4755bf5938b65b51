import ClassAtlas.Generator.Dump
import ClassAtlas.Proofs.FileWriting
import ClassAtlas.Proofs.RoundRecords

/-!
The run of a dump. The classes up to the first without a record are handed to the writer in order,
each as the text of its record. A text that is handed over reaches the file at the path of its class
or is reported; files at other places stay as they were.
-/
namespace ClassAtlas

open Files (Location Path FileTree)

namespace Generator

/-- What comes of an attempt to write a text to a path. -/
inductive Attempt (p : Path) (text : String) (before after : Session) : Option Path → Prop where
  | failed (added : before.files.Extends after.files) (same : after.written = before.written) :
      Attempt p text before after none
  | wrote {made : FileTree} (added : before.files.Extends made)
      (wrote : made.Wrote p text.toUTF8.toList after.files)
      (same : after.written = before.written) : Attempt p text before after (some p)

namespace Attempt

variable {p : Path} {text : String} {before after : Session} {answer : Option Path}

theorem written_eq (attempt : Attempt p text before after answer) :
    after.written = before.written := by
  cases attempt with
  | failed _ same => exact same
  | wrote _ _ same => exact same

theorem answer_eq (attempt : Attempt p text before after answer) :
    answer = none ∨ answer = some p := by
  cases attempt with
  | failed => exact .inl rfl
  | wrote => exact .inr rfl

end Attempt

theorem attempt_writeFile (g : Generator) (strict : Bool) (directory file text : String)
    (s : Session) :
    Attempt ((g.folder directory).join (Path.ofText file)) text s
      (g.writeFile strict directory file text s).1
      (g.writeFile strict directory file text s).2 := by
  have attempted := g.attempted_writeFile strict directory file text s
  generalize g.writeFile strict directory file text s = ended at attempted ⊢
  cases attempted with
  | unwritten _ grown _ =>
      rw [traced_eq]
      exact .failed grown.extends rfl
  | written encoded _ grown wrote =>
      cases encoded
      rw [traced_eq]
      exact .wrote grown.extends (FileTree.wrote_of_write wrote) rfl

end Generator

namespace Dump

def artifactPath (d : Dump) (c : AnnotatedClass) : Path :=
  (d.folder (folderName c)).join (Path.ofText (fileName c))

/-- The place to which the artifact of a class goes. -/
def artifactPlace (d : Dump) (working : Location) (c : AnnotatedClass) : Location :=
  (d.artifactPath c).destination working

/-- A text given to the writer for a class; the path is kept where the text was written. -/
def handOver (d : Dump) (c : AnnotatedClass) (text : String) (s : Session) : Session :=
  let (s, path) := d.writeFile d.strict (folderName c) (fileName c) text s
  { s with written := s.written ++ path.toList }

/-- Texts given to the writer in order, each after the trace of its making. -/
def handOverAll (d : Dump) : List (AnnotatedClass × String) → Session → Session
  | [], s => s
  | (c, text) :: rest, s =>
      d.handOverAll rest (d.handOver c text (s.observe (c.serialize d.context)).1)

theorem handOverAll_append (d : Dump) (first rest : List (AnnotatedClass × String)) (s : Session) :
    d.handOverAll (first ++ rest) s = d.handOverAll rest (d.handOverAll first s) := by
  induction first generalizing s with
  | nil => rfl
  | cons p first ih => exact ih _

theorem writeClass_of_ok {d : Dump} {c : AnnotatedClass} {text : String} {s : Session}
    (done : (c.serialize d.context).outcome = .ok text) :
    d.writeClass c s = (d.handOver c text (s.observe (c.serialize d.context)).1, .ok ()) := by
  rw [writeClass, Session.observe, done]
  rfl

theorem writeClass_of_error {d : Dump} {c : AnnotatedClass} {e : StructureError} {s : Session}
    (failed : (c.serialize d.context).outcome = .error e) :
    d.writeClass c s = ((s.observe (c.serialize d.context)).1, .error e) := by
  rw [writeClass, Session.observe, failed]

/-- The texts of records, each with its class. -/
def texts (classes : List AnnotatedClass) (records : List ClassRecord) :
    List (AnnotatedClass × String) := classes.zip (records.map ClassRecord.serialize)

theorem writeAll_of_ok {d : Dump} {classes : List AnnotatedClass} {records : List ClassRecord}
    (done : ClassRecord.ofClasses d.context classes = .ok records) (s : Session) :
    d.writeAll classes s = (d.handOverAll (texts classes records) s, .ok ()) := by
  induction classes generalizing records s with
  | nil => rfl
  | cons c rest ih =>
      obtain ⟨r, rs, first, others, rfl⟩ := ClassRecord.ofClasses_cons_eq_ok_iff.mp done
      rw [writeAll, writeClass_of_ok (AnnotatedClass.outcome_serialize_of_ok first)]
      exact ih others _

theorem writeAll_of_error {d : Dump} {classes : List AnnotatedClass} {e : StructureError}
    (failed : ClassRecord.ofClasses d.context classes = .error e) (s : Session) :
    ∃ s', d.writeAll classes s = (s', .error e) := by
  induction classes generalizing s with
  | nil => cases failed
  | cons c rest ih =>
      rcases ClassRecord.ofClasses_cons_eq_error_iff.mp failed with first | ⟨r, first, others⟩
      · rw [writeAll, writeClass_of_error (AnnotatedClass.outcome_serialize_of_error first)]
        exact ⟨_, rfl⟩
      · rw [writeAll, writeClass_of_ok (AnnotatedClass.outcome_serialize_of_ok first)]
        exact ih others _

section Process

variable {d : Dump} {s : Session}

theorem process_of_undiscovered {e : Discovery.DiscoveryError}
    (failed : (d.discover d.directKind d.registryKind s).2 = .error e) :
    d.process s = ((d.discover d.directKind d.registryKind s).1, .error (.undiscovered e)) := by
  cases discovered : d.discover d.directKind d.registryKind s with
  | mk s₀ outcome =>
      rw [discovered] at failed
      cases failed
      rw [process, discovered]

theorem process_of_discovered {found : ClassSet}
    (done : (d.discover d.directKind d.registryKind s).2 = .ok found) :
    let run := d.writeAll found.toList (d.discover d.directKind d.registryKind s).1
    d.process s = (run.1, (run.2.mapError .misshapen).map fun _ => found.isNotEmpty) := by
  cases discovered : d.discover d.directKind d.registryKind s with
  | mk s₀ outcome =>
      rw [discovered] at done
      cases done
      rw [process, discovered]
      dsimp only
      cases d.writeAll found.toList s₀ with
      | mk s' result => cases result <;> rfl

end Process

/-- What giving one text to the writer does. Either nothing is kept of it, or its path is kept and
leads to a file that holds the text. -/
structure Handed (d : Dump) (c : AnnotatedClass) (text : String) (before after : Session) :
    Prop where
  directories : before.files.KeepsDirectories after.files
  others : ∀ place, place ≠ d.artifactPlace before.files.workingDirectory c →
    ∀ e, before.files.entry? place = some e → after.files.entry? place = some e
  outcome : after.written = before.written ∨
    after.written = before.written ++ [d.artifactPath c] ∧
    after.files.locate (d.artifactPath c) =
      .ok (d.artifactPlace before.files.workingDirectory c) ∧
    after.files.entry? (d.artifactPlace before.files.workingDirectory c) =
      some (.file text.toUTF8.toList)

theorem handed_handOver (d : Dump) (c : AnnotatedClass) (text : String) (s : Session) :
    d.Handed c text s (d.handOver c text s) := by
  have attempt := d.attempt_writeFile d.strict (folderName c) (fileName c) text s
  rw [handOver]
  cases result : d.writeFile d.strict (folderName c) (fileName c) text s with
  | mk after path =>
      rw [result] at attempt
      cases attempt with
      | failed added same =>
          exact ⟨added.keepsDirectories, fun place _ => added.entry place,
            .inl ((List.append_nil _).trans same)⟩
      | @wrote made added wrote same =>
          have here : made.workingDirectory = s.files.workingDirectory := added.workingDirectory
          refine ⟨added.keepsDirectories.trans wrote.kept, ?_, .inr ⟨?_, ?_, ?_⟩⟩
          · intro place apart e is
            rw [artifactPlace, ← here] at apart
            rw [wrote.others place apart]
            exact added.entry place e is
          · exact congrArg (· ++ [d.artifactPath c]) same
          · rw [artifactPlace, ← here]
            exact wrote.located
          · rw [artifactPlace, ← here]
            exact wrote.entry

/-- The trace before the text changes no file. -/
theorem handed_handOver_observe (d : Dump) (c : AnnotatedClass) (text : String) (s : Session) :
    d.Handed c text s (d.handOver c text (s.observe (c.serialize d.context)).1) := by
  have noted := s.noted_observe (c.serialize d.context)
  obtain ⟨directories, others, outcome⟩ :=
    d.handed_handOver c text (s.observe (c.serialize d.context)).1
  rw [noted.files] at directories others outcome
  rw [noted.written] at outcome
  exact ⟨directories, others, outcome⟩

theorem Handed.length_le {d : Dump} {c : AnnotatedClass} {text : String} {before after : Session}
    (handed : d.Handed c text before after) :
    after.written.length ≤ before.written.length + 1 := by
  rcases handed.outcome with same | ⟨noted, _⟩
  · simp [same]
  · simp [noted]

/-- What giving texts to the writer in turn does. -/
structure HandedAll (d : Dump) (pairs : List (AnnotatedClass × String)) (before after : Session) :
    Prop where
  directories : before.files.KeepsDirectories after.files
  others : ∀ place, (∀ p ∈ pairs, place ≠ d.artifactPlace before.files.workingDirectory p.1) →
    ∀ e, before.files.entry? place = some e → after.files.entry? place = some e
  length_le : after.written.length ≤ before.written.length + pairs.length

theorem handedAll_handOverAll (d : Dump) (pairs : List (AnnotatedClass × String)) (s : Session) :
    d.HandedAll pairs s (d.handOverAll pairs s) := by
  induction pairs generalizing s with
  | nil => exact ⟨.refl _, fun _ _ _ => id, Nat.le_refl _⟩
  | cons p rest ih =>
      obtain ⟨c, text⟩ := p
      have handed := d.handed_handOver_observe c text s
      obtain ⟨directories, others, length_le⟩ :=
        ih (d.handOver c text (s.observe (c.serialize d.context)).1)
      refine ⟨handed.directories.trans directories, ?_, ?_⟩
      · intro place apart e is
        obtain ⟨apart, others_apart⟩ := List.forall_mem_cons.mp apart
        refine others place ?_ e (handed.others place apart e is)
        rw [handed.directories.workingDirectory]
        exact others_apart
      · have one := handed.length_le
        rw [List.length_cons]
        exact Nat.le_trans length_le (by omega)

section Complete

variable {d : Dump} {before after : List (AnnotatedClass × String)} {c : AnnotatedClass}
  {text : String} {s s' : Session}

/-- Where a path is kept for every text, each of them was written in its turn. -/
theorem handed_of_complete
    (run : s' = d.handOverAll (before ++ (c, text) :: after) s)
    (complete : s'.written.length = s.written.length + (before ++ (c, text) :: after).length) :
    ∃ s₁ : Session, s₁.written = (d.handOverAll before s).written ++ [d.artifactPath c] ∧
      s₁.files.workingDirectory = s.files.workingDirectory ∧
      s₁.files.locate (d.artifactPath c) = .ok (d.artifactPlace s.files.workingDirectory c) ∧
      s₁.files.entry? (d.artifactPlace s.files.workingDirectory c) =
        some (.file text.toUTF8.toList) ∧
      d.HandedAll after s₁ s' := by
  have first := d.handedAll_handOverAll before s
  have here := d.handed_handOver_observe c text (d.handOverAll before s)
  have rest := d.handedAll_handOverAll after
    (d.handOver c text ((d.handOverAll before s).observe (c.serialize d.context)).1)
  have split : s' = d.handOverAll after
      (d.handOver c text ((d.handOverAll before s).observe (c.serialize d.context)).1) := by
    rw [run, handOverAll_append]
    rfl
  rw [← split] at rest
  have working := first.directories.workingDirectory
  rcases here.outcome with lost | ⟨noted, located, entry⟩
  -- A text adds one path at most, so without this one's the paths are too few.
  · have fewer := first.length_le
    have others := rest.length_le
    rw [lost] at others
    simp only [List.length_append, List.length_cons] at complete
    omega
  · rw [working] at located entry
    exact ⟨_, noted, here.directories.workingDirectory.trans working, located, entry, rest⟩

end Complete

end Dump
end ClassAtlas
