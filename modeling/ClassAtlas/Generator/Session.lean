import ClassAtlas.Diagnostics
import ClassAtlas.Failure
import ClassAtlas.Files.FileTree
import ClassAtlas.Translation.Traced

/-!
The state of a run: the files, the diagnostics reported so far in order, and the paths written.
Trace diagnostics are kept only by a run that debugs.
-/
namespace ClassAtlas

structure Session where
  debug : Bool
  files : Files.FileTree
  diagnostics : List Diagnostic
  written : List Files.Path
  deriving Repr

namespace Session

def start (debug : Bool) (files : Files.FileTree) : Session := ⟨debug, files, [], []⟩

def report (severity : Severity) (message : RawText) (s : Session) : Session :=
  { s with diagnostics := s.diagnostics ++ [⟨severity, message⟩] }

def note (message : RawText) (s : Session) : Session := s.report .info message

def warn (message : RawText) (s : Session) : Session := s.report .warning message

def trace (message : String) (s : Session) : Session := if s.debug then s.note message else s

def traceAll (messages : List String) (s : Session) : Session :=
  messages.foldl (fun s message => s.trace message) s

theorem traceAll_eq (messages : List String) (s : Session) :
    s.traceAll messages =
      { s with diagnostics :=
          s.diagnostics ++ if s.debug then messages.map (⟨.info, ·⟩) else [] } := by
  induction messages generalizing s with
  | nil => simp [traceAll]
  | cons message rest ih =>
      change (s.trace message).traceAll rest = _
      rw [ih, trace]
      cases debug : s.debug <;> simp [note, report, debug]

/-- The outcome of a traced computation, whose events go to the diagnostics. -/
def observe {α : Type} (x : Traced α) (s : Session) : Session × Except StructureError α :=
  (s.traceAll (x.events.map TranslationEvent.text), x.outcome)

def errors (s : Session) : List Diagnostic := Diagnostic.errors s.diagnostics

def hasErrors (s : Session) : Bool := Diagnostic.hasErrors s.diagnostics

end Session
end ClassAtlas
