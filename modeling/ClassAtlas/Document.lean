import ClassAtlas.Failure
import ClassAtlas.Yaml.Document

/-!
Documents: YAML texts from which the program loads a model. A document that cannot be used is
refused for a reason of its kind, unless reading it fails before the reason could be stated.
-/
namespace ClassAtlas

inductive LoadError (ρ : Type) where
  | refused (reason : ρ)
  | failed (failure : Failure)
  deriving Repr

namespace Document

variable {ρ : Type}

/-- The value of a text; breaking the rules of the format is a reason to refuse it. -/
def value (malformed : ρ) (text : String) : Except (LoadError ρ) Value :=
  match Yaml.load text with
  | .ok v => .ok v
  | .error fault =>
      match Failure.ofFault? fault with
      | some failure => .error (.failed failure)
      | none => .error (.refused malformed)

/-- An empty document stands for an empty mapping. -/
def orEmpty : Value → Value
  | .null => .map []
  | v => v

/-- Every line ends in a line feed, whichever of the three line ends it was written with. -/
def lines : List Char → List Char
  | [] => []
  | '\r' :: '\n' :: rest => '\n' :: lines rest
  | '\r' :: rest => '\n' :: lines rest
  | c :: rest => c :: lines rest

/-- The text that the content of a file encodes. -/
def decoded (content : List UInt8) : Except (LoadError ρ) String :=
  match String.fromUTF8? ⟨content.toArray⟩ with
  | some text => .ok (String.ofList (lines text.toList))
  | none => .error (.failed .notUtf8)

end Document
end ClassAtlas
