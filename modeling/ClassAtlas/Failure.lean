import ClassAtlas.Text.Quoted
import ClassAtlas.Text.Raw
import ClassAtlas.Yaml.Fault

/-!
Failures as reports name them: the kind of the failure and, unless there is nothing to say, a
message about the case.
-/
namespace ClassAtlas

structure Failure where
  kind : String
  message : String
  deriving DecidableEq, Repr

namespace Failure

/-- The last line of a report. -/
def line (f : Failure) : String :=
  if f.message.isEmpty then f.kind ++ "\n" else f.kind ++ ": " ++ f.message ++ "\n"

/-- A failure that broke off a computation is headed as such. -/
def report (f : Failure) (brokeOff : Bool) : String :=
  (if brokeOff then "Traceback (most recent call last):\n" else "") ++ f.line

/-- Scalars and versions that name no value. A text that breaks the rules of the format is no
failure but a reason to refuse the document. -/
def ofFault? : Yaml.Fault → Option Failure
  | .malformed => none
  | .impossible reason => some ⟨"ValueError", reason⟩
  | .overflow reason => some ⟨"OverflowError", reason⟩
  | .unknownWord word => some ⟨"KeyError", Text.quoted word⟩
  | .emptyNumber => some ⟨"IndexError", "string index out of range"⟩
  | .noTimestamp => some ⟨"AttributeError", ""⟩
  | .noText => some ⟨"TypeError", ""⟩
  | .tooDeep => some ⟨"RecursionError", ""⟩

def notUtf8 : Failure := ⟨"UnicodeDecodeError", ""⟩

/-- A text with surrogates where bytes are asked for. -/
def notEncoded (e : EncodingError) : Failure := ⟨"UnicodeEncodeError", e.reason⟩

/-- A blank where the name of a file is asked for. -/
def notNamed : Failure := ⟨"TypeError", ""⟩

/-- A blank where the kind of an annotation is asked for. -/
def noKind : Failure := ⟨"AttributeError", ""⟩

def nulInPath : Failure := ⟨"ValueError", "embedded null byte"⟩

end Failure
end ClassAtlas
