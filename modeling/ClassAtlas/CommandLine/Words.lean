import ClassAtlas.CommandLine.Usage
import ClassAtlas.Text.Digits
import ClassAtlas.Text.Quoted

/-!
The words of a command line. A word that begins with a dash is a switch if it is the spelling of
one, if a spelling is followed by an equals sign and a value, or if just one long spelling begins
as it does. Negative numbers and words with a blank in them are operands, and so is everything
behind a double dash.
-/
namespace ClassAtlas.CommandLine

inductive Switch where
  | help
  | direct
  | registry
  | config
  | debug
  | output
  | keepGoing
  deriving DecidableEq, Repr

namespace Switch

def takesValue : Switch → Bool
  | direct | registry | config | output => true
  | help | debug | keepGoing => false

def title : Switch → String
  | help => "-h/--help"
  | direct => "--direct"
  | registry => "--registry"
  | config => "--config"
  | debug => "--debug"
  | output => "--output"
  | keepGoing => "--keep-going"

end Switch

abbrev Spellings := List (String × Switch)

def Page.spellings : Page → Spellings
  | general => helpOnly
  | inspect => shared
  | dump => shared ++ [("--output", .output), ("--keep-going", .keepGoing)]
where
  helpOnly : Spellings := [("-h", .help), ("--help", .help)]
  shared : Spellings := helpOnly ++
    [("--direct", .direct), ("--registry", .registry), ("--config", .config), ("--debug", .debug)]

inductive Complaint where
  | ambiguous (given : String) (candidates : List String)
  | valueExpected (switch : Switch)
  | valueIgnored (switch : Switch) (value : String)
  | unknownCommand (given : String)
  | missing (titles : List String)
  | unrecognized (words : List String)
  deriving Repr

def Complaint.message : Complaint → String
  | ambiguous given candidates =>
      "ambiguous option: " ++ given ++ " could match " ++ Text.separated ", " candidates
  | valueExpected switch => "argument " ++ switch.title ++ ": expected one argument"
  | valueIgnored switch value =>
      "argument " ++ switch.title ++ ": ignored explicit argument " ++ Text.quoted value
  | unknownCommand given =>
      "argument COMMAND: invalid choice: " ++ Text.quoted given
        ++ " (choose from 'inspect', 'dump')"
  | missing titles => "the following arguments are required: " ++ Text.separated ", " titles
  | unrecognized words => "unrecognized arguments: " ++ Text.separated " " words

/-- A value is assigned to a long spelling by an equals sign; a short spelling has a tail, with an
equals sign before it or without. -/
inductive Word where
  | operand (text : String)
  | switch (s : Switch)
  | assigned (s : Switch) (value : String)
  | tailed (s : Switch) (tail : List Char)
  | stray (text : String)
  | separator
  deriving Repr

namespace Word

/-- What stands before the first equals sign, and what behind it if there is one. -/
def atEquals : List Char → List Char × Option (List Char)
  | [] => ([], none)
  | c :: rest =>
      if c = '=' then ([], some rest)
      else
        let (name, value) := atEquals rest
        (c :: name, value)

def withValue (s : Switch) : Option (List Char) → Word
  | some value => .assigned s (String.ofList value)
  | none => .switch s

/-- The spellings that a word may abbreviate, each with the word read so. -/
def readings (spellings : Spellings) : List Char → List (String × Word)
  | '-' :: '-' :: rest =>
      let (name, value) := atEquals ('-' :: '-' :: rest)
      (spellings.filter fun entry => name.isPrefixOf entry.1.toList).map fun entry =>
        (entry.1, withValue entry.2 value)
  | dash :: letter :: rest =>
      (spellings.filter fun entry => entry.1.toList == [dash, letter]).map fun entry =>
        (entry.1, .tailed entry.2 rest)
  | _ => []

/-- One or more digits up to the end, or up to a last line feed. -/
def isDigits : List Char → Bool
  | [] => false
  | c :: rest => Text.isDecimalDigit c && (rest.isEmpty || rest == ['\n'] || isDigits rest)

/-- Digits, or digits behind a point with or without digits before it. -/
def isNegativeNumber : List Char → Bool
  | '-' :: rest =>
      isDigits rest || match rest.dropWhile Text.isDecimalDigit with
        | '.' :: fraction => isDigits fraction
        | _ => false
  | _ => false

/-- A word that begins with a dash and is no spelling and no assignment. -/
def ofDashed (spellings : Spellings) (text : String) : Except Complaint Word :=
  match readings spellings text.toList with
  | [(_, word)] => .ok word
  | [] =>
      if isNegativeNumber text.toList || text.toList.contains ' ' then .ok (.operand text)
      else .ok (.stray text)
  | several => .error (.ambiguous text (several.map (·.1)))

def isShort (spelling : List Char) : Bool := spelling.length == 2

def assignment? (spellings : Spellings) (text : String) : Option Word :=
  match atEquals text.toList with
  | (name, some value) =>
      (spellings.lookup (String.ofList name)).map fun s =>
        if isShort name then .tailed s value else .assigned s (String.ofList value)
  | (_, none) => none

def ofText (spellings : Spellings) (text : String) : Except Complaint Word :=
  match text.toList with
  | '-' :: _ :: _ =>
      match spellings.lookup text with
      | some s => .ok (.switch s)
      | none =>
          match assignment? spellings text with
          | some word => .ok word
          | none => ofDashed spellings text
  | _ => .ok (.operand text)

/-- All words are read before any is acted on. -/
def ofTexts (spellings : Spellings) : List String → Except Complaint (List Word)
  | [] => .ok []
  | text :: rest =>
      if text = "--" then .ok (.separator :: rest.map .operand)
      else do
        let word ← ofText spellings text
        let words ← ofTexts spellings rest
        return word :: words

end Word
end ClassAtlas.CommandLine
