import ClassAtlas.Declarations.Check
import ClassAtlas.Document
import ClassAtlas.Files.FileTree

/-!
Reading declarations from a text or from a file. The label of a text, or the path of a file, names
the source in messages.
-/
namespace ClassAtlas.Declarations

inductive Refusal where
  | notYaml (label : String)
  | invalid (label : String) (issues : List Issue)
  | unreadable (path : String) (why : String)
  deriving Repr

def Refusal.message : Refusal → String
  | .notYaml label => "Invalid YAML in " ++ label
  | .invalid label _ => "Invalid declarations in " ++ label
  | .unreadable path why => "Cannot read declarations file '" ++ path ++ "': " ++ why

def Refusal.issues : Refusal → List Issue
  | .notYaml _ | .unreadable .. => []
  | .invalid _ issues => issues

abbrev Loaded := Except (LoadError Refusal)

def ofValue (label : String) (v : Value) : Loaded Declarations :=
  (check (Document.orEmpty v)).toExcept.mapError fun issues => .refused (.invalid label issues)

def parse (label text : String) : Loaded Declarations := do
  ofValue label (← Document.value (.notYaml label) text)

def readError (p : Files.Path) : Files.FileError → LoadError Refusal
  | .nulInPath => .failed .nulInPath
  | e => .refused (.unreadable p.text e.failure.message)

def load (files : Files.FileTree) (p : Files.Path) : Loaded Declarations := do
  let content ← (files.read p).mapError (readError p)
  parse p.text (← Document.decoded content)

end ClassAtlas.Declarations
