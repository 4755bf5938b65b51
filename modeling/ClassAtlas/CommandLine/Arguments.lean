import ClassAtlas.CommandLine.Words

/-!
Reading a command line into an invocation of a command. The general words come first; from the
command on, the words are read by the rules of that command. Help wins over complaints about later
words, and words left over are complained about last.
-/
namespace ClassAtlas.CommandLine

/-- The value of a switch. A double dash behind an equals sign is dropped, which leaves a blank. -/
inductive Setting where
  | blank
  | text (value : String)
  deriving DecidableEq, Repr

namespace Setting

def ofAssigned (value : String) : Setting := if value = "--" then blank else text value

def text? : Setting → Option String
  | blank => none
  | text value => some value

end Setting

inductive Task where
  | inspect
  | dump (output : Option Setting) (keepGoing : Bool)
  deriving DecidableEq, Repr

/-- A blank registry is as good as none. -/
structure Invocation where
  declarations : String
  direct : Setting
  registry : Option String
  config : Option Setting
  debug : Bool
  task : Task
  deriving DecidableEq, Repr

/-- Why no command is carried out. -/
inductive Stop where
  | help (page : Page)
  | complaint (page : Page) (c : Complaint)
  deriving Repr

/-- What is known of an invocation; a switch given again replaces its value. -/
structure Draft where
  declarations : Option String
  direct : Option Setting
  registry : Option String
  config : Option Setting
  output : Option Setting
  debug : Bool
  keepGoing : Bool
  leftOver : List String
  deriving Repr

namespace Draft

def empty : Draft := ⟨none, none, none, none, none, false, false, []⟩

def assign (s : Switch) (value : Setting) (d : Draft) : Draft :=
  match s with
  | .direct => { d with direct := some value }
  | .registry => { d with registry := value.text? }
  | .config => { d with config := some value }
  | .output => { d with output := some value }
  | .help | .debug | .keepGoing => d

def turnOn (s : Switch) (d : Draft) : Draft :=
  match s with
  | .debug => { d with debug := true }
  | .keepGoing => { d with keepGoing := true }
  | .help | .direct | .registry | .config | .output => d

def leave (text : String) (d : Draft) : Draft := { d with leftOver := d.leftOver ++ [text] }

/-- The first operand names the declarations. -/
def operand (text : String) (d : Draft) : Draft :=
  match d.declarations with
  | none => { d with declarations := some text }
  | some _ => d.leave text

def task (page : Page) (d : Draft) : Task :=
  if page = .dump then .dump d.output d.keepGoing else .inspect

def missing (d : Draft) : List String :=
  (if d.declarations.isNone then ["declarations"] else [])
    ++ (if d.direct.isNone then ["--direct"] else [])

def finish (page : Page) (d : Draft) : Except Stop Invocation :=
  match d.declarations, d.direct with
  | some declarations, some direct =>
      .ok ⟨declarations, direct, d.registry, d.config, d.debug, d.task page⟩
  | _, _ => .error (.complaint page (.missing d.missing))

end Draft

/-- The tail of the short spelling of help consists of more letters for help, of which the last
ends the word. -/
def helpTail (page : Page) : List Char → Stop
  | ['h'] => .help page
  | 'h' :: tail => helpTail page tail
  | tail => .complaint page (.valueIgnored .help (String.ofList tail))

/-- A double dash next to the operand it sets off is dropped. -/
def readWords (page : Page) (d : Draft) : List Word → Except Stop Draft
  | [] => .ok d
  | .stray text :: rest => readWords page (d.leave text) rest
  | .operand text :: .separator :: rest =>
      if d.declarations.isNone then readWords page (d.operand text) rest
      else readWords page ((d.leave text).leave "--") rest
  | .operand text :: rest => readWords page (d.operand text) rest
  | .separator :: .operand text :: rest =>
      if d.declarations.isNone then readWords page (d.operand text) rest
      else readWords page ((d.leave "--").leave text) rest
  | .separator :: rest => readWords page (d.leave "--") rest
  | .assigned s value :: rest =>
      if s.takesValue then readWords page (d.assign s (.ofAssigned value)) rest
      else .error (.complaint page (.valueIgnored s value))
  | .tailed _ tail :: _ => .error (helpTail page tail)
  | .switch s :: rest =>
      if s.takesValue then
        match rest with
        | .operand value :: others => readWords page (d.assign s (.text value)) others
        | _ => .error (.complaint page (.valueExpected s))
      else if s = .help then .error (.help page)
      else readWords page (d.turnOn s) rest

/-- The words of a command, with those that are left over. -/
def readCommand (page : Page) (texts : List String) : Except Stop (Invocation × List String) := do
  let words ← (Word.ofTexts page.spellings texts).mapError (.complaint page)
  let draft ← readWords page .empty words
  let invocation ← draft.finish page
  return (invocation, draft.leftOver)

def runCommand (page : Page) (leftOver : List String) (texts : List String) :
    Except Stop Invocation := do
  let (invocation, more) ← readCommand page texts
  if leftOver ++ more = [] then return invocation
  else .error (.complaint .general (.unrecognized (leftOver ++ more)))

/-- The command is the first operand; the words before it are left over. -/
def readGeneral (leftOver : List String) : List (String × Word) → Except Stop Invocation
  | [] =>
      if leftOver = [] then .error (.help .general)
      else .error (.complaint .general (.unrecognized leftOver))
  | (_, .stray text) :: rest => readGeneral (leftOver ++ [text]) rest
  | (_, .operand name) :: rest =>
      if name = "inspect" then runCommand .inspect leftOver (rest.map (·.1))
      else if name = "dump" then runCommand .dump leftOver (rest.map (·.1))
      else .error (.complaint .general (.unknownCommand name))
  | [(text, .separator)] =>
      .error (.complaint .general (.unrecognized (leftOver ++ [text])))
  | (text, .separator) :: _ => .error (.complaint .general (.unknownCommand text))
  | (_, .assigned s value) :: _ => .error (.complaint .general (.valueIgnored s value))
  | (_, .tailed _ tail) :: _ => .error (helpTail .general tail)
  | (_, .switch _) :: _ => .error (.help .general)

def read (texts : List String) : Except Stop Invocation := do
  let words ← (Word.ofTexts Page.general.spellings texts).mapError (.complaint .general)
  readGeneral [] (texts.zip words)

end ClassAtlas.CommandLine
