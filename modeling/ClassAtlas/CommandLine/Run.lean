import ClassAtlas.CommandLine.Arguments
import ClassAtlas.CommandLine.Inspect
import ClassAtlas.Declarations.Reading
import ClassAtlas.Generator.Dump

/-!
Runs of the program: what a command line prints, which files it leaves, and how it ends. The log
of diagnostics goes to the error stream.
-/
namespace ClassAtlas.CommandLine

open Files (FileTree Path)

/-- A run ends with an exit code unless a failure breaks it off. -/
structure Outcome where
  printed : String
  complained : String
  files : FileTree
  ending : Except Failure Nat

/-- Why the inputs of a command cannot be used. -/
inductive Trouble where
  | reported (message : String)
  | failed (failure : Failure)

def Trouble.ofLoadError {ρ : Type} (message : ρ → String) : LoadError ρ → Trouble
  | .refused reason => .reported (message reason)
  | .failed failure => .failed failure

def errorLine (message : String) : String := "Error: " ++ message ++ "\n"

/-- A blank names no file. -/
def readConfig (env : Environment) (files : FileTree) : Option Setting → Except Trouble Config
  | none => .ok .standard
  | some .blank => .error (.failed .notNamed)
  | some (.text name) =>
      (Config.load files env (Path.ofText name)).mapError (.ofLoadError Config.Refusal.message)

def readDeclarations (files : FileTree) (p : Path) : Except Trouble Declarations :=
  (Declarations.load files p).mapError (.ofLoadError Declarations.Refusal.message)

def checkPresent (files : FileTree) (p : Path) : Except Trouble Unit :=
  match files.isPresent p with
  | .error e => .error (.failed e.failure)
  | .ok true => .ok ()
  | .ok false => .error (.reported ("declarations file '" ++ p.text ++ "' does not exist."))

/-- The host and the configuration of a run. The configuration is looked at before the content of
the declarations. -/
def prepare (env : Environment) (i : Invocation) (files : FileTree) :
    Except Trouble (Host × Config) := do
  let p := Path.ofText i.declarations
  checkPresent files p
  let config ← readConfig env files i.config
  let declarations ← readDeclarations files p
  return (Host.ofDeclarations declarations true, { config with debug := config.debug || i.debug })

def log (s : Session) : String := String.join (s.diagnostics.map Diagnostic.logLine)

def exitCode (s : Session) : Nat := if s.hasErrors then 1 else 0

/-- An error that ends a run is printed behind the log. -/
def broken (lines : List String) (s : Session) (message : String) : Outcome where
  printed := unlines lines
  complained := log s ++ errorLine message
  files := s.files
  ending := .ok 1

def wroteLine (palette : Palette) (count : Nat) : String :=
  palette.green ("Wrote " ++ toString count ++ " model file(s).")

/-- The end of a run that found no class. -/
def idle (palette : Palette) (task : Task) (s : Session) : Outcome where
  printed := unlines [match task with
    | .inspect => "No annotated classes found."
    | .dump _ _ => wroteLine palette 0]
  complained := log s
  files := s.files
  ending := .ok 0

def failed (s : Session) (failure : Failure) : Outcome := ⟨"", log s, s.files, .error failure⟩

def inspect (palette : Palette) (g : Generator) (directKind : String)
    (registryKind : Option String) (s : Session) : Outcome :=
  match g.discover directKind registryKind s with
  | (s, .error e) => broken [] s e.message
  | (s, .ok classes) =>
      if classes.isNotEmpty then
        let printed := Inspect.printClasses palette g.context classes.toList s
        match printed.outcome with
        | .error e => broken printed.lines printed.session e.message
        | .ok () =>
            { printed := unlines printed.lines
              complained := log printed.session
              files := printed.session.files
              ending := .ok (exitCode printed.session) }
      else idle palette .inspect s

def writtenLine (p : Path) : String := "  wrote " ++ p.text

def dump (palette : Palette) (d : Dump) (s : Session) : Outcome :=
  match d.process s with
  | (s, .error e) => broken [] s e.message
  | (s, .ok _) =>
      let wrote := s.written.map writtenLine
      if s.hasErrors then
        let failed := "Failed: " ++ toString s.errors.length ++ " error(s)."
        { printed := unlines wrote
          complained := log s ++ unlines [palette.red failed]
          files := s.files
          ending := .ok 1 }
      else
        { printed := unlines (wrote ++ [wroteLine palette s.written.length])
          complained := log s
          files := s.files
          ending := .ok 0 }

/-- A dump whose folder is blank has nowhere to write its first artifact. -/
def dumpNowhere (palette : Palette) (d : Dump) (s : Session) : Outcome :=
  match d.discover d.directKind d.registryKind s with
  | (s, .error e) => broken [] s e.message
  | (s, .ok classes) =>
      match classes.toList with
      | [] => idle palette (.dump none false) s
      | c :: _ =>
          match s.observe (c.serialize d.context) with
          | (s, .error e) => broken [] s e.message
          | (s, .ok _) => failed s .notNamed

/-- A blank marks no class, and there is no summary of it for the classes found by registry. -/
def performUnmarked (palette : Palette) (g : Generator) (i : Invocation) (s : Session) : Outcome :=
  match i.registry.elim (.ok []) (Discovery.registryClasses g.host) with
  | .error e => broken [] s e.message
  | .ok classes =>
      let s := s.traceAll (Discovery.Found.trace ⟨[], classes⟩)
      if classes = [] then idle palette i.task s else failed s .noKind

def perform (palette : Palette) (i : Invocation) (h : Host) (config : Config) (files : FileTree) :
    Outcome :=
  let s := Session.start config.debug files
  let g := Generator.ofConfig h config Context.standardUnsupported
  match i.direct, i.task with
  | .blank, _ => performUnmarked palette g i s
  | .text directKind, .inspect => inspect palette g directKind i.registry s
  | .text directKind, .dump output keepGoing =>
      let d := Dump.mk g directKind i.registry !keepGoing
      match output with
      | none => dump palette d s
      | some (.text directory) => dump palette { d with outputDirectory := directory } s
      | some .blank => dumpNowhere palette d s

def execute (palette : Palette) (env : Environment) (i : Invocation) (files : FileTree) :
    Outcome :=
  match prepare env i files with
  | .error (.reported message) => ⟨"", errorLine message, files, .ok 1⟩
  | .error (.failed failure) => ⟨"", "", files, .error failure⟩
  | .ok (h, config) => perform palette i h config files

def run (palette : Palette) (env : Environment) (arguments : List String) (files : FileTree) :
    Outcome :=
  match read arguments with
  | .error (.help page) => ⟨page.help, "", files, .ok 0⟩
  | .error (.complaint page c) => ⟨"", page.complaint c.message, files, .ok 2⟩
  | .ok i => execute palette env i files

end ClassAtlas.CommandLine
