import ClassAtlas.Yaml.Token.Block
import ClassAtlas.Yaml.Token.Plain
import ClassAtlas.Yaml.Token.Properties
import ClassAtlas.Yaml.Token.Quoted

/-!
The tokens of a YAML text. A word before a colon is a key only in hindsight: its place among the
tokens is kept while a colon may follow, which is on the same line and within 1024 characters, and
the key tokens are inserted there. Every step reads at least one character, and a fault met on the
way ends the tokens that are settled by then.
-/
namespace ClassAtlas.Yaml

/-- A place where a key may have begun. It is required where only a key can stand. -/
structure PendingKey where
  position : Nat
  required : Bool
  line : Nat
  column : Nat
  offset : Nat

/-- The state of reading: the indentations of the open block collections, and for the block level
and each open flow collection, innermost first, the key that may have begun there. -/
structure Layout where
  cursor : Cursor
  indent : Int
  outer : List Int
  keyAllowed : Bool
  keys : List (Option PendingKey)
  tokens : Array Token

namespace Layout

def start (text : List Char) : Layout := ⟨Cursor.start text, -1, [], true, [none], #[]⟩

def inFlow (s : Layout) : Bool := s.keys.length > 1

def push (s : Layout) (t : Token) : Layout := { s with tokens := s.tokens.push t }

def skip (s : Layout) (n : Nat) : Layout := { s with cursor := s.cursor.skip n }

def forwardTo (s : Layout) (rest : List Char) : Layout :=
  { s with cursor := s.cursor.forwardTo rest }

/-- What blanks, comments and breaks leave, and whether there was a break. -/
def gap : Bool → List Char → Bool × List Char
  | _, [] => (false, [])
  | comment, c :: rest =>
      if isBreak c then (true, (gap false rest).2)
      else if comment then gap true rest
      else if c = ' ' then gap false rest
      else if c = '#' then gap true rest
      else (false, c :: rest)

/-- Forward to the next token; a new line outside flow collections may begin with a key. A byte
order mark may open the text. -/
def skipGap (s : Layout) : Layout :=
  let text := match s.cursor.offset, s.cursor.rest with
    | 0, '\ufeff' :: rest => rest
    | _, text => text
  let (broken, rest) := gap false text
  let s := s.forwardTo rest
  if broken && !s.inFlow then { s with keyAllowed := true } else s

def isStale (s : Layout) (k : PendingKey) : Bool :=
  k.line != s.cursor.line || s.cursor.offset - k.offset > 1024

def forget (s : Layout) : Option PendingKey → Except Fault (Option PendingKey)
  | none => .ok none
  | some k =>
      if !s.isStale k then .ok (some k)
      else if k.required then .error .malformed
      else .ok none

/-- A pending key that is too far back is given up, unless it is required. -/
def forgetStale (s : Layout) : Except Fault Layout := do
  let keys ← s.keys.mapM s.forget
  return { s with keys := keys }

def setKey (s : Layout) (key : Option PendingKey) : Layout :=
  { s with keys := key :: s.keys.drop 1 }

def key? (s : Layout) : Option PendingKey := s.keys.head?.join

/-- The pending key of the innermost level is given up. -/
def dropKey (s : Layout) : Except Fault Layout :=
  if s.key?.any (·.required) then .error .malformed else .ok (s.setKey none)

/-- The next token may begin a key. -/
def saveKey (s : Layout) : Except Fault Layout :=
  if !s.keyAllowed then .ok s
  else do
    let s ← s.dropKey
    return s.setKey (some
      { position := s.tokens.size
        required := !s.inFlow && s.indent == s.cursor.column
        line := s.cursor.line
        column := s.cursor.column
        offset := s.cursor.offset })

/-- The indentations left at a column, and how many collections end there. -/
def unwound (column indent : Int) : List Int → Nat × Int × List Int
  | [] => (0, indent, [])
  | next :: outer =>
      if indent > column then
        let (ended, rest) := unwound column next outer
        (ended + 1, rest)
      else (0, indent, next :: outer)

/-- Block collections end at a line that is indented less. -/
def unwind (column : Int) (s : Layout) : Layout :=
  if s.inFlow then s
  else
    let (ended, indent, outer) := unwound column s.indent s.outer
    { s with indent := indent, outer := outer,
             tokens := s.tokens ++ Array.replicate ended Token.blockEnd }

/-- A block collection begins where the column is further in than the one around it. -/
def indentAt (s : Layout) (column position : Nat) (opening : Token) : Layout :=
  if s.inFlow || s.indent ≥ column then s
  else { s with indent := column, outer := s.indent :: s.outer,
                tokens := s.tokens.insertIdxIfInBounds position opening }

def indentHere (s : Layout) (opening : Token) : Layout :=
  s.indentAt s.cursor.column s.tokens.size opening

/-- The end of all block collections before something that stands outside them. -/
def close (s : Layout) : Except Fault Layout := do
  let s ← (s.unwind (-1)).dropKey
  return { s with keyAllowed := false }

def documentMarker (s : Layout) (t : Token) : Except Fault Layout := do
  return ((← s.close).push t).skip 3

def directive (s : Layout) : Except Fault Layout := do
  let s ← s.close
  let (t, rest) ← Properties.directive (s.cursor.rest.drop 1)
  return (s.push t).forwardTo rest

def flowStart (s : Layout) (t : Token) : Except Fault Layout := do
  let s ← s.saveKey
  return { (s.push t).skip 1 with keys := none :: s.keys, keyAllowed := true }

def flowEnd (s : Layout) (t : Token) : Except Fault Layout := do
  let s ← s.dropKey
  let keys := if s.inFlow then s.keys.drop 1 else s.keys
  return { (s.push t).skip 1 with keys := keys, keyAllowed := false }

def flowEntry (s : Layout) : Except Fault Layout := do
  let s ← s.dropKey
  return { (s.push .flowEntry).skip 1 with keyAllowed := true }

def blockEntry (s : Layout) : Except Fault Layout := do
  if !s.inFlow && !s.keyAllowed then throw .malformed
  let s ← (s.indentHere .blockSeqStart).dropKey
  return { (s.push .blockEntry).skip 1 with keyAllowed := true }

def explicitKey (s : Layout) : Except Fault Layout := do
  if !s.inFlow && !s.keyAllowed then throw .malformed
  let s ← (s.indentHere .blockMapStart).dropKey
  return { (s.push .key).skip 1 with keyAllowed := !s.inFlow }

/-- A colon makes a pending key a key, or stands behind an explicit or an empty one. -/
def value (s : Layout) : Except Fault Layout := do
  let s ← match s.key? with
    | some k =>
        let s := s.setKey none
        let s := { s with tokens := s.tokens.insertIdxIfInBounds k.position .key }
        let s := s.indentAt k.column k.position .blockMapStart
        pure { s with keyAllowed := false }
    | none =>
        if !s.inFlow && !s.keyAllowed then throw .malformed
        let s := s.indentHere .blockMapStart
        ({ s with keyAllowed := !s.inFlow }).dropKey
  return (s.push .value).skip 1

/-- A token that may begin a key, read by `read` behind its first character. -/
def lexeme (s : Layout) (read : List Char → Except Fault (Token × List Char)) :
    Except Fault Layout := do
  let s ← s.saveKey
  let (t, rest) ← read (s.cursor.rest.drop 1)
  return { (s.push t).forwardTo rest with keyAllowed := false }

def blockScalar (s : Layout) (folded : Bool) : Except Fault Layout := do
  let s ← s.dropKey
  let (text, rest) ← Block.scalar folded s.indent (s.cursor.rest.drop 1)
  return { (s.push (.scalar text false)).forwardTo rest with keyAllowed := true }

def quotedScalar (s : Layout) (isDouble : Bool) : Except Fault Layout :=
  s.lexeme fun text => do
    let (read, rest) ← Quoted.scalar isDouble text
    return (.scalar read false, rest)

def plainScalar (s : Layout) : Except Fault Layout := do
  let s ← s.saveKey
  let place : Plain.Place := ⟨s.inFlow, s.indent + 1⟩
  let (pieces, rest) := Plain.pieces place s.cursor.column false s.cursor.rest
  return { (s.push (.scalar (Plain.text pieces) true)).forwardTo rest with
           keyAllowed := Plain.endsBroken pieces }

def isIndicator (c : Char) : Bool := "-?:,[]\x7b\x7d#&*!|>'\"%@`".toList.contains c

/-- Whether a plain scalar can begin with a character. -/
def beginsPlain (s : Layout) (c : Char) (rest : List Char) : Bool :=
  !isBlank c && !isBreak c && !isIndicator c
    || !atWordEnd rest && (c == '-' || !s.inFlow && (c == '?' || c == ':'))

/-- The next token. -/
def fetch (s : Layout) (c : Char) (rest : List Char) : Except Fault Layout :=
  let marker := s.cursor.column == 0 && atDocumentMarker (c :: rest)
  if c == '%' && s.cursor.column == 0 then s.directive
  else if c == '-' && marker then s.documentMarker .documentStart
  else if c == '.' && marker then s.documentMarker .documentEnd
  else if c == '[' then s.flowStart .flowSeqStart
  else if c == '\x7b' then s.flowStart .flowMapStart
  else if c == ']' then s.flowEnd .flowSeqEnd
  else if c == '\x7d' then s.flowEnd .flowMapEnd
  else if c == ',' then s.flowEntry
  else if c == '-' && atWordEnd rest then s.blockEntry
  else if c == '?' && (s.inFlow || atWordEnd rest) then s.explicitKey
  else if c == ':' && (s.inFlow || atWordEnd rest) then s.value
  else if c == '*' then s.lexeme fun text => do
    let (name, rest) ← Properties.anchor text
    return (.alias name, rest)
  else if c == '&' then s.lexeme fun text => do
    let (name, rest) ← Properties.anchor text
    return (.anchor name, rest)
  else if c == '!' then s.lexeme Properties.tag
  else if c == '|' && !s.inFlow then s.blockScalar false
  else if c == '>' && !s.inFlow then s.blockScalar true
  else if c == '\'' then s.quotedScalar false
  else if c == '"' then s.quotedScalar true
  else if s.beginsPlain c rest then s.plainScalar
  else .error .malformed

/-- The state at the next token, which is the end of the text if nothing is left. -/
def settle (s : Layout) : Except Fault Layout := do
  let s ← s.skipGap.forgetStale
  return s.unwind s.cursor.column

def finish (s : Layout) : Except Fault Layout := do
  return (← s.close).push .streamEnd

/-- How many tokens are settled: no key token can come before them any more. -/
def settledCount (s : Layout) : Nat :=
  s.keys.reduceOption.foldl (fun count k => if s.isStale k then count else min count k.position)
    s.tokens.size

/-- Tokens that are not settled are not given out, so a fault behind them comes in their place. -/
def broken (s : Layout) (f : Fault) : List Token :=
  s.tokens.toList.take s.settledCount ++ [.fault f]

/-- All tokens from a state on. -/
def run (s : Layout) : List Token :=
  match s.settle with
  | .error f => s.broken f
  | .ok s' =>
      match s'.cursor.rest with
      | [] =>
          match s'.finish with
          | .error f => s.broken f
          | .ok s' => s'.tokens.toList
      | c :: rest =>
          match s'.fetch c rest with
          | .error f => s.broken f
          | .ok next =>
              if _h : next.cursor.rest.length < s.cursor.rest.length then next.run
              else s.broken .malformed
termination_by s.cursor.rest.length

end Layout

/-- Characters that may stand in a YAML text. -/
def isReadable (c : Char) : Bool :=
  let n := c.toNat
  n == 0x9 || n == 0xa || n == 0xd || n == 0x85 || 0x20 ≤ n && n ≤ 0x7e || 0xa0 ≤ n && n ≤ 0xfffd
    || 0x10000 ≤ n

namespace Token

/-- The tokens of a text. -/
def scan (text : String) : List Token :=
  if text.toList.all isReadable then (Layout.start text.toList).run else [.fault .malformed]

end Token
end ClassAtlas.Yaml
