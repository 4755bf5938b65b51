import ClassAtlas.Text.Pieces

/-!
The help pages of the program and of its two commands.
-/
namespace ClassAtlas.CommandLine

inductive Page where
  | general
  | inspect
  | dump
  deriving DecidableEq, Repr

def unlines (lines : List String) : String := String.join (lines.map (· ++ "\n"))

namespace Page

/-- The name under which a page speaks. -/
def program : Page → String
  | general => "annogen"
  | inspect => "annogen inspect"
  | dump => "annogen dump"

def usage : Page → List String
  | general => ["usage: annogen [-h] COMMAND ..."]
  | inspect =>
      ["usage: annogen inspect [-h] --direct DIRECT [--registry REGISTRY]",
        "                       [--config CONFIG] [--debug]",
        "                       declarations"]
  | dump =>
      ["usage: annogen dump [-h] --direct DIRECT [--registry REGISTRY]",
        "                    [--config CONFIG] [--debug] [--output OUTPUT]",
        "                    [--keep-going]",
        "                    declarations"]

def description : Page → String
  | general => "annogen - annotated class model and type translation"
  | inspect => "Discover annotated classes in a declarations file and print their model."
  | dump => "Discover annotated classes and write one <Class>.model.json per class."

def operands : Page → List String
  | general =>
      ["  COMMAND",
        "    inspect   Print the discovered classes and their translated properties",
        "    dump      Write a JSON model file per discovered class"]
  | inspect | dump => ["  declarations         YAML declarations file describing the classes"]

def sharedOptions : List String :=
  ["  -h, --help           show this help message and exit",
    "  --direct DIRECT      Qualified name of the annotation marking classes",
    "                       directly",
    "  --registry REGISTRY  Qualified name of the annotation listing classes in its",
    "                       'value' attribute",
    "  --config CONFIG      Generator configuration YAML file",
    "  --debug              Print verbose trace diagnostics"]

def options : Page → List String
  | general => ["  -h, --help  show this help message and exit"]
  | inspect => sharedOptions
  | dump => sharedOptions ++
      ["  --output OUTPUT      Output directory (default: output-directory of the",
        "                       config, or build/generated)",
        "  --keep-going         Report write failures as warnings instead of errors"]

def help (p : Page) : String :=
  unlines (p.usage ++ ["", p.description, "", "positional arguments:"] ++ p.operands
    ++ ["", "options:"] ++ p.options)

/-- What is written about arguments that cannot be used. -/
def complaint (p : Page) (message : String) : String :=
  unlines (p.usage ++ [p.program ++ ": error: " ++ message])

end Page
end ClassAtlas.CommandLine
