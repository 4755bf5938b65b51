import ClassAtlas.Generator.Output
import ClassAtlas.Proofs.SessionNotes
import ClassAtlas.Proofs.TreeChanges

/-!
What an attempt to write a file leaves behind. An attempt that nothing obstructs answers its path:
it has set the one file that the path leads to and made at most the folders on the way. Any other
answers no path, has set no file, and reports the content and what obstructed it.
-/
namespace ClassAtlas

open Files (Location Path FileTree FileError)

theorem Session.trace_eq (message : String) (s : Session) :
    s.trace message =
      { s with diagnostics := s.diagnostics ++ if s.debug then [⟨.info, message⟩] else [] } :=
  s.traceAll_eq [message]

namespace Generator

/-- What keeps a content from a file: its folder cannot be made, a surrogate breaks the content, or
its bytes cannot be written there. -/
inductive Obstructs (files : FileTree) (folder path : Path) (content : RawText) :
    WriteError → Prop where
  | folder {made : FileTree} {e : FileError}
      (failed : files.ensureDirectory folder = (made, .error e)) :
      Obstructs files folder path content (.file e)
  | content {made : FileTree} {before : String} {first : Fin 2048} {after : RawText}
      (reached : files.ensureDirectory folder = (made, .ok ()))
      (broken : content = .broken before first after) :
      Obstructs files folder path content (.content ⟨before.length, first, after.leading⟩)
  | file {made : FileTree} {text : String} {e : FileError}
      (reached : files.ensureDirectory folder = (made, .ok ())) (encoded : content = text)
      (failed : made.write path text.toUTF8.toList = .error e) :
      Obstructs files folder path content (.file e)

/-- A run with other files and some traces. -/
def traced (files : FileTree) (messages : List String) (s : Session) : Session :=
  { s.traceAll messages with files := files }

/-- How an attempt to write a file ends: what obstructs it is reported, or the file is set. -/
inductive Attempted (strict : Bool) (directory file : String) (content : RawText)
    (folder path : Path) (s : Session) : Session × Option Path → Prop where
  | unwritten {made : FileTree} {messages : List String} {e : WriteError}
      (obstructed : Obstructs s.files folder path content e)
      (grown : s.files.GrowsAlong folder made) (upTo : messages <+: [folder.text, path.text]) :
      Attempted strict directory file content folder path s
        (reportUnwritten strict directory file content e (traced made messages s), none)
  | written {made after : FileTree} {text : String} (encoded : content = text)
      (reached : s.files.ensureDirectory folder = (made, .ok ()))
      (grown : s.files.GrowsAlong folder made)
      (wrote : made.write path text.toUTF8.toList = .ok after) :
      Attempted strict directory file content folder path s
        (traced after [folder.text, path.text] s, some path)

variable {strict : Bool} {directory file : String} {content : RawText} {s : Session}
  {folder path : Path} {made after : FileTree} {e : WriteError} {messages : List String}

theorem traced_eq (files : FileTree) (messages : List String) (s : Session) :
    traced files messages s = { s with
      files := files
      diagnostics := s.diagnostics ++ if s.debug then messages.map (⟨.info, ·⟩) else [] } := by
  rw [traced, Session.traceAll_eq]

theorem trace_trace (files : FileTree) (first second : String) (s : Session) :
    Session.trace second { s.trace first with files := files } =
      traced files [first, second] s := by
  simp only [Session.trace_eq, traced_eq, List.map_cons, List.map_nil]
  cases s.debug <;> simp

theorem attempted_writeFile (g : Generator) (strict : Bool) (directory file : String)
    (content : RawText) (s : Session) :
    Attempted strict directory file content (g.folder directory)
      ((g.folder directory).join (Path.ofText file)) s
      (g.writeFile strict directory file content s) := by
  have grown := s.files.growsAlong_ensureDirectory (g.folder directory)
  have before : (s.trace (g.folder directory).text).files = s.files := by rw [Session.trace_eq]
  rw [writeFile]
  simp only [before, trace_trace]
  cases ensured : s.files.ensureDirectory (g.folder directory) with
  | mk made result =>
      rw [ensured] at grown
      cases result with
      | error e => exact .unwritten (.folder ensured) grown (List.prefix_append [_] [_])
      | ok _ =>
          dsimp only
          cases content with
          | broken before first after =>
              exact .unwritten (.content ensured rfl) grown List.prefix_rfl
          | string text =>
              dsimp only [RawText.encode, traced]
              cases written : made.write _ text.toUTF8.toList with
              | error e => exact .unwritten (.file ensured rfl written) grown List.prefix_rfl
              | ok after => exact .written rfl ensured grown written

/-- Content with a surrogate leaves the folder of its file and no file. -/
example :
    let g : Generator := .ofConfig (.ofDeclarations ⟨[]⟩ false) .standard []
    let content : RawText := .broken "x = '" 0 "'"
    let done := g.writeFile false "a" "A.kt" content (.start false ⟨[], []⟩)
    done.2 = none ∧ done.1.files.entries.all (·.2 == .directory) ∧
      done.1.diagnostics.map (·.severity) = [.info, .warning] := by
  decide +kernel

end Generator
end ClassAtlas
