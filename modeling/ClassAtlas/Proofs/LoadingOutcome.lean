import ClassAtlas.CommandLine.Run
import ClassAtlas.Proofs.FirstFailure
import ClassAtlas.Proofs.Lists

/-!
How the loading of a document ends. Both loaders read, decode and parse a file in the same way: they
give a model, or they refuse the document for a reason, or a failure breaks them off that is no
such reason. The last happens for a path that no file can have, for bytes that are no text, and for
a text with a scalar that names no value, with a version of too many digits or with too many levels.
A command answers a document that is refused, and is broken off where a loader is.
-/
namespace ClassAtlas

open Files (FileTree Path FileError)
open FirstFailure

namespace Document

/-- What breaks off the loading of a file. -/
inductive Breaks (files : FileTree) (p : Path) : Failure → Prop where
  | path (nul : p.hasNul = true) : Breaks files p .nulInPath
  | bytes {content : List UInt8} (read : files.read p = .ok content)
      (undecoded : ∀ text : String, content ≠ text.toUTF8.toList) : Breaks files p .notUtf8
  | scalar {text : String} {fault : Yaml.Fault} {failure : Failure}
      (read : files.read p = .ok text.toUTF8.toList)
      (faulty : Yaml.load (String.ofList (lines text.toList)) = .error fault)
      (unnamed : Failure.ofFault? fault = some failure) : Breaks files p failure

variable {ρ α : Type} {files : FileTree} {p : Path} {failure : Failure}

/-- Loading as a series of steps: what a file that cannot be read leads to, the reason to refuse a
text that breaks the rules of the format, and what is made of the value of a text. -/
def loading (files : FileTree) (p : Path) (unread : FileError → LoadError ρ) (malformed : ρ)
    (model : Value → Except (LoadError ρ) α) : Except (LoadError ρ) α := do
  let content ← (files.read p).mapError unread
  let text ← decoded content
  let v ← value malformed text
  model v

theorem locate_eq_nulInPath_iff : files.locate p = .error .nulInPath ↔ p.hasNul = true := by
  rw [FileTree.locate]
  split
  case isTrue nul => simp [nul]
  case isFalse clean =>
    split
    · simp [clean]
    · simp [clean, mapError_eq_error_iff]

theorem read_eq_nulInPath_iff : files.read p = .error .nulInPath ↔ p.hasNul = true := by
  rw [FileTree.read, bind_eq_error_iff, locate_eq_nulInPath_iff]
  refine or_iff_left ?_
  rintro ⟨place, _, failed⟩
  split at failed <;> cases failed

theorem decoding_eq_some_iff {content : List UInt8} {text : String} :
    String.fromUTF8? ⟨content.toArray⟩ = some text ↔ content = text.toUTF8.toList := by
  rw [fromUTF8?_eq_some_iff, toList_eq_data, ByteArray.ext_iff, ← Array.toList_inj]

theorem decoded_eq_ok_iff {content : List UInt8} {text : String} :
    (decoded content : Except (LoadError ρ) String) = .ok text ↔ ∃ written : String,
      content = written.toUTF8.toList ∧ text = String.ofList (lines written.toList) := by
  simp only [decoded, ← decoding_eq_some_iff]
  cases String.fromUTF8? ⟨content.toArray⟩ with
  | none => simp
  | some written => simp [eq_comm]

theorem decoded_toUTF8 (text : String) : (decoded text.toUTF8.toList : Except (LoadError ρ) String) =
    .ok (String.ofList (lines text.toList)) :=
  decoded_eq_ok_iff.mpr ⟨text, rfl, rfl⟩

theorem decoded_eq_failed_iff {content : List UInt8} :
    (decoded content : Except (LoadError ρ) String) = .error (.failed failure) ↔
      failure = .notUtf8 ∧ ∀ text : String, content ≠ text.toUTF8.toList := by
  simp only [decoded, ne_eq, ← decoding_eq_some_iff]
  cases String.fromUTF8? ⟨content.toArray⟩ with
  | none => simp [eq_comm]
  | some written => simp

theorem value_eq_failed_iff {malformed : ρ} {text : String} :
    value malformed text = .error (.failed failure) ↔
      ∃ fault, Yaml.load text = .error fault ∧ Failure.ofFault? fault = some failure := by
  rw [value]
  cases Yaml.load text with
  | ok v => simp
  | error fault => cases named : Failure.ofFault? fault <;> simp [named]

/-- Where the first step fails for a path without a file alone, and the last step only refuses, what
breaks the file off is what breaks the loading off. -/
theorem loading_eq_failed_iff {unread : FileError → LoadError ρ} {malformed : ρ}
    {model : Value → Except (LoadError ρ) α}
    (reading : ∀ e f, unread e = .failed f ↔ e = .nulInPath ∧ f = .nulInPath)
    (refusing : ∀ v f, model v ≠ .error (.failed f)) :
    loading files p unread malformed model = .error (.failed failure) ↔
      Breaks files p failure := by
  simp only [loading, bind_eq_error_iff, mapError_eq_error_iff, mapError_eq_ok_iff, reading,
    decoded_eq_failed_iff, decoded_eq_ok_iff, value_eq_failed_iff]
  constructor
  · rintro (⟨_, failed, rfl, rfl⟩ | ⟨content, read, ⟨rfl, undecoded⟩ | ⟨_, ⟨text, rfl, rfl⟩, rest⟩⟩)
    · exact .path (read_eq_nulInPath_iff.mp failed)
    · exact .bytes read undecoded
    · rcases rest with ⟨fault, faulty, unnamed⟩ | ⟨v, _, failed⟩
      · exact .scalar read faulty unnamed
      · exact absurd failed (refusing v failure)
  · intro breaks
    cases breaks with
    | path nul => exact .inl ⟨.nulInPath, read_eq_nulInPath_iff.mpr nul, rfl, rfl⟩
    | bytes read undecoded => exact .inr ⟨_, read, .inl ⟨rfl, undecoded⟩⟩
    | scalar read faulty unnamed =>
        exact .inr ⟨_, read, .inr ⟨_, ⟨_, rfl, rfl⟩, .inl ⟨_, faulty, unnamed⟩⟩⟩

/-- A model or a refusal, unless some failure breaks off: then it is that failure. -/
structure AnswersUnless (breaks : Failure → Prop) (x : Except (LoadError ρ) α) : Prop where
  answered : ((∃ a, x = .ok a) ∨ ∃ reason, x = .error (.refused reason)) ↔ ∀ f, ¬ breaks f
  failed : ∀ f, x = .error (.failed f) ↔ breaks f

theorem answersUnless_of_failed_iff {breaks : Failure → Prop} {x : Except (LoadError ρ) α}
    (failed : ∀ f, x = .error (.failed f) ↔ breaks f) : AnswersUnless breaks x := by
  refine ⟨?_, failed⟩
  simp only [← failed]
  cases x with
  | ok a => simp
  | error e => cases e <;> simp

end Document

theorem Declarations.load_of_read {files : FileTree} {p : Path} {text : String}
    (read : files.read p = .ok text.toUTF8.toList) :
    load files p = parse p.text (.ofList (Document.lines text.toList)) := by
  simp only [load, read, Except.mapError, Document.decoded_toUTF8, bind, Except.bind]

theorem Declarations.load_eq_failed_iff {files : FileTree} {p : Path} {failure : Failure} :
    load files p = .error (.failed failure) ↔ Document.Breaks files p failure := by
  have same : load files p =
      Document.loading files p (readError p) (.notYaml p.text) (ofValue p.text) := rfl
  rw [same, Document.loading_eq_failed_iff]
  · intro e f
    cases e <;> simp [readError, eq_comm]
  · intro v f failed
    obtain ⟨_, _, refused⟩ := mapError_eq_error_iff.mp failed
    cases refused

theorem Config.load_eq_failed_iff {files : FileTree} {env : Environment} {p : Path}
    {failure : Failure} :
    load files env p = .error (.failed failure) ↔ Document.Breaks files p failure := by
  have same : load files env p =
      Document.loading files p (readError p) (.notYaml p.text) fun v =>
        (ofValue env v).mapError fun problem => .refused (.invalid p.text problem) := rfl
  rw [same, Document.loading_eq_failed_iff]
  · intro e f
    cases e with
    | nulInPath => simp [readError, eq_comm]
    | blocked obstacle q => cases obstacle <;> simp [readError]
  · intro v f failed
    obtain ⟨_, _, refused⟩ := mapError_eq_error_iff.mp failed
    cases refused

namespace CommandLine

variable {env : Environment} {i : Invocation} {files : FileTree} {p : Path} {failure : Failure}

/-- What breaks off a command over its documents: a name of the declarations that cannot be asked
for, a blank where the configuration is named, or what breaks off the loading of one of the two. -/
inductive Stops (env : Environment) (i : Invocation) (files : FileTree) : Failure → Prop where
  | name {e : FileError} (unasked : files.isPresent (Path.ofText i.declarations) = .error e) :
      Stops env i files e.failure
  | blank (present : files.isPresent (Path.ofText i.declarations) = .ok true)
      (given : i.config = some .blank) : Stops env i files .notNamed
  | config {name : String} {failure : Failure}
      (present : files.isPresent (Path.ofText i.declarations) = .ok true)
      (given : i.config = some (.text name))
      (breaks : Document.Breaks files (Path.ofText name) failure) : Stops env i files failure
  | declarations {config : Config} {failure : Failure}
      (present : files.isPresent (Path.ofText i.declarations) = .ok true)
      (configured : readConfig env files i.config = .ok config)
      (breaks : Document.Breaks files (Path.ofText i.declarations) failure) :
      Stops env i files failure

/-- The documents of a command load. -/
structure Loads (env : Environment) (i : Invocation) (files : FileTree) : Prop where
  present : files.isPresent (Path.ofText i.declarations) = .ok true
  configured : ∃ config, readConfig env files i.config = .ok config
  declared : ∃ d, Declarations.load files (Path.ofText i.declarations) = .ok d

theorem checkPresent_eq_ok_iff {u : Unit} :
    checkPresent files p = .ok u ↔ files.isPresent p = .ok true := by
  rw [checkPresent]
  cases files.isPresent p with
  | error e => simp
  | ok present => cases present <;> simp

theorem checkPresent_eq_failed_iff : checkPresent files p = .error (.failed failure) ↔
    ∃ e, files.isPresent p = .error e ∧ e.failure = failure := by
  rw [checkPresent]
  cases files.isPresent p with
  | error e => simp
  | ok present => cases present <;> simp

theorem ofLoadError_eq_failed_iff {ρ : Type} {message : ρ → String} {e : LoadError ρ} :
    Trouble.ofLoadError message e = .failed failure ↔ e = .failed failure := by
  cases e <;> simp [Trouble.ofLoadError]

theorem readDeclarations_eq_failed_iff :
    readDeclarations files p = .error (.failed failure) ↔ Document.Breaks files p failure := by
  simp only [readDeclarations, mapError_eq_error_iff, ofLoadError_eq_failed_iff, exists_eq_right,
    Declarations.load_eq_failed_iff]

theorem readConfig_eq_failed_iff {setting : Option Setting} :
    readConfig env files setting = .error (.failed failure) ↔
      (setting = some .blank ∧ failure = .notNamed) ∨
      ∃ name, setting = some (.text name) ∧
        Document.Breaks files (Path.ofText name) failure := by
  match setting with
  | none => simp [readConfig]
  | some .blank => simp [readConfig, eq_comm]
  | some (.text name) =>
      simp [readConfig, mapError_eq_error_iff, ofLoadError_eq_failed_iff,
        Config.load_eq_failed_iff]

theorem prepare_eq_failed_iff :
    prepare env i files = .error (.failed failure) ↔ Stops env i files failure := by
  simp only [prepare, bind_eq_error_iff, checkPresent_eq_ok_iff, checkPresent_eq_failed_iff,
    readConfig_eq_failed_iff, readDeclarations_eq_failed_iff, pure, Except.pure, reduceCtorEq,
    and_false, exists_false, or_false]
  constructor
  · rintro (⟨e, unasked, rfl⟩ | ⟨_, present, (⟨blank, rfl⟩ | ⟨name, given, breaks⟩) |
      ⟨config, configured, breaks⟩⟩)
    · exact .name unasked
    · exact .blank present blank
    · exact .config present given breaks
    · exact .declarations present configured breaks
  · intro stops
    cases stops with
    | name unasked => exact .inl ⟨_, unasked, rfl⟩
    | blank present given => exact .inr ⟨(), present, .inl (.inl ⟨given, rfl⟩)⟩
    | config present given breaks => exact .inr ⟨(), present, .inl (.inr ⟨_, given, breaks⟩)⟩
    | declarations present configured breaks =>
        exact .inr ⟨(), present, .inr ⟨_, configured, breaks⟩⟩

theorem exists_prepare_iff :
    (∃ loaded, prepare env i files = .ok loaded) ↔ Loads env i files := by
  simp only [prepare, bind_eq_ok_iff, checkPresent_eq_ok_iff, readDeclarations,
    mapError_eq_ok_iff]
  constructor
  · rintro ⟨_, _, present, config, configured, d, declared, _⟩
    exact ⟨present, ⟨config, configured⟩, d, declared⟩
  · rintro ⟨present, ⟨config, configured⟩, d, declared⟩
    exact ⟨_, (), present, config, configured, d, declared, rfl⟩

/-- Each loader gives a model or refuses the file, unless the path, the bytes or a scalar of the
file breaks it off, and then it fails with just that. A command whose documents load goes on with
them. Otherwise it answers one line and the exit code one, unless it is broken off itself. -/
theorem answers_unless_broken_off (files : FileTree) :
    (∀ p, Document.AnswersUnless (Document.Breaks files p) (Declarations.load files p)) ∧
    (∀ env p, Document.AnswersUnless (Document.Breaks files p) (Config.load files env p)) ∧
    ∀ palette env i,
      let ended := execute palette env i files
      (Loads env i files ∧ ∃ h config, ended = perform palette i h config files) ∨
      (¬ Loads env i files ∧ (∀ f, ¬ Stops env i files f) ∧
        ∃ message, ended = ⟨"", errorLine message, files, .ok 1⟩) ∨
      ∃ f, Stops env i files f ∧ ended = ⟨"", "", files, .error f⟩ := by
  refine ⟨fun p => Document.answersUnless_of_failed_iff fun f => Declarations.load_eq_failed_iff,
    fun env p => Document.answersUnless_of_failed_iff fun f => Config.load_eq_failed_iff, ?_⟩
  intro palette env i ended
  simp only [ended, execute, ← exists_prepare_iff, ← prepare_eq_failed_iff]
  cases prepare env i files with
  | ok loaded => exact .inl ⟨⟨loaded, rfl⟩, loaded.1, loaded.2, rfl⟩
  | error trouble =>
      cases trouble with
      | reported message => exact .inr (.inl ⟨nofun, nofun, message, rfl⟩)
      | failed failure => exact .inr (.inr ⟨failure, rfl, rfl⟩)

/-- A file with the form of a date that names no day. -/
def impossibleDay : FileTree where
  entries := [(["d.yaml"], .file "2001-13-45\n".toUTF8.toList)]
  workingDirectory := []

/-- The day breaks off both loaders and the command: the file is neither taken nor refused. -/
theorem impossible_day_breaks_off :
    let p := Path.ofText "d.yaml"
    let failure : Failure := ⟨"ValueError", "month must be in 1..12"⟩
    let i : Invocation := ⟨"d.yaml", .text "Tag", none, none, false, .inspect⟩
    Declarations.load impossibleDay p = .error (.failed failure) ∧
    Config.load impossibleDay [] p = .error (.failed failure) ∧
    execute .plain [] i impossibleDay = ⟨"", "", impossibleDay, .error failure⟩ := by
  intro p failure i
  have read : impossibleDay.read p = .ok "2001-13-45\n".toUTF8.toList :=
    eq_ok_of_toOption (by decide +kernel)
  have faulty : Yaml.load (String.ofList (Document.lines "2001-13-45\n".toList)) =
      .error (.impossible "month must be in 1..12") := eq_error_of_failure? (by decide +kernel)
  have breaks : Document.Breaks impossibleDay p failure := .scalar read faulty rfl
  have present : impossibleDay.isPresent p = .ok true := eq_ok_of_toOption (by decide +kernel)
  have stops : Stops [] i impossibleDay failure := .declarations present rfl breaks
  refine ⟨Declarations.load_eq_failed_iff.mpr breaks, Config.load_eq_failed_iff.mpr breaks, ?_⟩
  rw [execute, prepare_eq_failed_iff.mpr stops]

end CommandLine
end ClassAtlas
