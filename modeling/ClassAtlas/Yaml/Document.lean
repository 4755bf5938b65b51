import ClassAtlas.Yaml.Grammar
import ClassAtlas.Yaml.Token.Stream
import ClassAtlas.Yaml.Unfolding

/-!
Documents: the value of a YAML text. A text holds one document or none, and none is null.
-/
namespace ClassAtlas.Yaml

namespace Document

/-! ### The root node -/

/-- What directives declare. -/
structure Prolog where
  version : Option Nat
  handles : Grammar.Handles

def prolog (p : Prolog) : List Token → Except Fault (Prolog × List Token)
  | .version major :: rest =>
      if p.version.isSome || major != 1 then .error .malformed
      else prolog { p with version := some major } rest
  | .handle handle uri :: rest =>
      if (p.handles.lookup handle).isSome then .error .malformed
      else prolog { p with handles := (handle, uri) :: p.handles } rest
  | .reserved :: rest => prolog p rest
  | tokens => .ok (p, tokens)

def isDirective : Token → Bool
  | .version _ | .handle .. | .reserved => true
  | _ => false

def opensDocument : List Token → Bool
  | t :: _ => isDirective t || t == .documentStart
  | [] => false

def endsDocument : List Token → Bool
  | t :: _ => isDirective t || t == .documentStart || t == .documentEnd || t == .streamEnd
  | [] => true

/-- Nothing may follow a document but end marks. -/
def atEnd (tokens : List Token) : Except Fault Unit :=
  match tokens.dropWhile (· == .documentEnd) with
  | [.streamEnd] => .ok ()
  | rest => .error (Grammar.unexpected rest)

/-- The nodes of a document, and the one that holds all others. -/
structure Rooted where
  graph : Graph
  root : NodeId

def node (handles : Grammar.Handles) (tokens : List Token) : Except Fault Rooted := do
  let read ← Grammar.node ⟨handles, 0⟩ .inBlock ⟨.empty, []⟩ tokens
  atEnd read.rest
  return ⟨read.stock.graph, read.value⟩

def absent : Rooted := ⟨Graph.empty.add ⟨.null, .scalar ""⟩, 0⟩

def content (handles : Grammar.Handles) (tokens : List Token) : Except Fault Rooted := do
  if endsDocument tokens then
    atEnd tokens
    return absent
  else node handles tokens

def explicit (tokens : List Token) : Except Fault Rooted := do
  let (p, rest) ← prolog ⟨none, []⟩ tokens
  match rest with
  | .documentStart :: rest => content (p.handles ++ Grammar.standardHandles) rest
  | rest => throw (Grammar.unexpected rest)

/-- The only document, if there is one. -/
def ofTokens? (tokens : List Token) : Except Fault (Option Rooted) := do
  if tokens == [.streamEnd] then return none
  else if opensDocument tokens then return some (← explicit tokens)
  else return some (← node Grammar.standardHandles tokens)

def Rooted.value (d : Rooted) : Except Fault Value := do
  return Unfolding.value (← Survey.ofRoot d.graph d.root).known d.root

end Document

/-- The value of a YAML text. -/
def load (text : String) : Except Fault Value := do
  match ← Document.ofTokens? (Token.scan text) with
  | some document => document.value
  | none => return .null

end ClassAtlas.Yaml
