import ClassAtlas.Text.Raw

/-!
Diagnostics reported while a round is processed, and the log they are forwarded to.
-/
namespace ClassAtlas

inductive Severity where
  | info
  | warning
  | error
  deriving DecidableEq, Repr

namespace Severity

def word : Severity → String
  | info => "info"
  | warning => "warning"
  | error => "error"

def ofWord? (word : String) : Option Severity :=
  [("info", info), ("warning", warning), ("error", error)].lookup word

def level : Severity → Nat
  | info => 20
  | warning => 30
  | error => 40

def levelName : Severity → String
  | info => "INFO"
  | warning => "WARNING"
  | error => "ERROR"

end Severity

structure Diagnostic where
  severity : Severity
  message : RawText
  deriving DecidableEq, Repr

namespace Diagnostic

/-- A diagnostic as a record of the log. -/
def logLine (d : Diagnostic) : String :=
  d.severity.levelName ++ ": " ++ d.message.escaped ++ "\n"

def isError (d : Diagnostic) : Bool := d.severity == .error

def isWarning (d : Diagnostic) : Bool := d.severity == .warning

def errors (ds : List Diagnostic) : List Diagnostic := ds.filter isError

def warnings (ds : List Diagnostic) : List Diagnostic := ds.filter isWarning

def hasErrors (ds : List Diagnostic) : Bool := ds.any isError

/-- The diagnostics that a log of a given level lets pass. -/
def logged (level : Nat) (ds : List Diagnostic) : List Diagnostic :=
  ds.filter fun d => level ≤ d.severity.level

end Diagnostic
end ClassAtlas
