import ClassAtlas.Document
import ClassAtlas.Files.FileTree
import ClassAtlas.Modifier
import ClassAtlas.Translation.Basic

/-!
The configuration of a run. The keys of a configuration document are looked at in a fixed order,
and the first that does not hold what it should is reported. Other keys are ignored.
-/
namespace ClassAtlas

/-- Unsupported modifiers that are not given are left to the generator. -/
structure Config where
  debug : Bool
  outputDirectory : String
  unsupported : Option (List Modifier)
  markers : List String
  renamed : List (String × String)
  deriving Repr

/-- The variables of an environment. -/
abbrev Environment := List (String × String)

namespace Config

def standardOutput : String := "build/generated"

def standard : Config where
  debug := false
  outputDirectory := standardOutput
  unsupported := none
  markers := [Translator.standardMarker]
  renamed := []

def debugVariable : String := "ANNOGEN_DEBUG"

/-- Whether an environment asks for trace diagnostics. -/
def debugRequested (env : Environment) : Bool := env.lookup debugVariable == some "true"

inductive Problem where
  | notMapping
  | debugNotTruth
  | outputNotText
  | notTexts (key : String)
  | unknownModifier (word : String)
  | renamingNotMapping
  | renamingNotTexts
  deriving DecidableEq, Repr

def Problem.message : Problem → String
  | .notMapping => "generator config must be a YAML mapping"
  | .debugNotTruth => "'debug' must be a boolean"
  | .outputNotText => "'output-directory' must be a string"
  | .notTexts key => "'" ++ key ++ "' must be a list of strings"
  | .unknownModifier word => "unknown modifier '" ++ word ++ "'"
  | .renamingNotMapping => "'renaming' must be a mapping"
  | .renamingNotTexts => "'renaming' entries must map strings to strings"

/-- A key that is absent leaves its default. -/
def setting {α : Type} (key : String) (default : α) (read : Value → Except Problem α)
    (entries : List (Value × Value)) : Except Problem α :=
  match Value.field? key entries with
  | some v => read v
  | none => .ok default

def readDebug : Value → Except Problem Bool
  | .bool b => .ok b
  | _ => .error .debugNotTruth

def readOutput : Value → Except Problem String
  | .str s => .ok s
  | _ => .error .outputNotText

def readTexts (key : String) (v : Value) : Except Problem (List String) :=
  match v.opened with
  | .seq items =>
      match Value.texts? items with
      | some texts => .ok texts
      | none => .error (.notTexts key)
  | _ => .error (.notTexts key)

def modifier (word : String) : Except Problem Modifier :=
  match Modifier.ofKeyword? word with
  | some m => .ok m
  | none => .error (.unknownModifier word)

def readModifiers (v : Value) : Except Problem (Option (List Modifier)) := do
  let words ← readTexts "unsupported-modifiers" v
  return some (← words.mapM modifier)

def textEntries? : List (Value × Value) → Option (List (String × String))
  | [] => some []
  | (.str source, .str target) :: rest => ((source, target) :: ·) <$> textEntries? rest
  | _ :: _ => none

def readRenaming (v : Value) : Except Problem (List (String × String)) :=
  match v.opened with
  | .map entries =>
      match textEntries? entries with
      | some renamed => .ok renamed
      | none => .error .renamingNotTexts
  | _ => .error .renamingNotMapping

/-- The environment counts only where the document does not set the key. -/
def ofEntries (env : Environment) (entries : List (Value × Value)) : Except Problem Config := do
  let debug ← setting "debug" (debugRequested env) readDebug entries
  let output ← setting "output-directory" standardOutput readOutput entries
  let unsupported ← setting "unsupported-modifiers" none readModifiers entries
  let markers ←
    setting "nullable-annotations" standard.markers (readTexts "nullable-annotations") entries
  let renamed ← setting "renaming" [] readRenaming entries
  return ⟨debug, output, unsupported, markers, renamed⟩

def ofValue (env : Environment) (v : Value) : Except Problem Config :=
  match (Document.orEmpty v).opened with
  | .map entries => ofEntries env entries
  | _ => .error .notMapping

inductive Refusal where
  | notYaml (label : String)
  | invalid (label : String) (problem : Problem)
  | notFound (path : String)
  | unreadable (why : String)
  deriving Repr

def Refusal.message : Refusal → String
  | .notYaml label => "Invalid YAML in " ++ label
  | .invalid label problem => label ++ ": " ++ problem.message
  | .notFound path => "Generator config file not found: " ++ path
  | .unreadable why => "Cannot read generator config file: " ++ why

abbrev Loaded := Except (LoadError Refusal)

def parse (label : String) (env : Environment) (text : String) : Loaded Config := do
  let v ← Document.value (.notYaml label) text
  (ofValue env v).mapError fun problem => .refused (.invalid label problem)

def readError (p : Files.Path) : Files.FileError → LoadError Refusal
  | .nulInPath => .failed .nulInPath
  | .blocked .missing _ => .refused (.notFound p.text)
  | e => .refused (.unreadable e.failure.message)

def load (files : Files.FileTree) (env : Environment) (p : Files.Path) : Loaded Config := do
  let content ← (files.read p).mapError (readError p)
  parse p.text env (← Document.decoded content)

end Config
end ClassAtlas
