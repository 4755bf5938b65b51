/-!
A place in a YAML text: what is left of it, and the line, column and offset reached. A line ends
with any of five breaks, and a carriage return before a line feed belongs to it. A byte order mark
takes no column.
-/
namespace ClassAtlas.Yaml

def isBreak (c : Char) : Bool :=
  c == '\n' || c == '\r' || c == '\x85' || c == '\u2028' || c == '\u2029'

def isBlank (c : Char) : Bool := c == ' ' || c == '\t'

/-- Whether a text is at a blank, at the end of a line, or at its own end. -/
def atWordEnd : List Char → Bool
  | [] => true
  | c :: _ => isBlank c || isBreak c

/-- The same, tabs apart. -/
def atSpace : List Char → Bool
  | [] => true
  | c :: _ => c == ' ' || isBreak c

/-- Whether a line begins with a document marker. -/
def atDocumentMarker : List Char → Bool
  | '-' :: '-' :: '-' :: rest | '.' :: '.' :: '.' :: rest => atWordEnd rest
  | _ => false

/-- A break and what follows it. Breaks are read as line feeds, the separators of lines and
paragraphs as themselves. -/
def break? : List Char → Option (Char × List Char)
  | '\r' :: '\n' :: rest => some ('\n', rest)
  | '\r' :: rest | '\n' :: rest | '\x85' :: rest => some ('\n', rest)
  | '\u2028' :: rest => some ('\u2028', rest)
  | '\u2029' :: rest => some ('\u2029', rest)
  | _ => none

structure Cursor where
  rest : List Char
  line : Nat
  column : Nat
  offset : Nat

namespace Cursor

def start (text : List Char) : Cursor := ⟨text, 0, 0, 0⟩

def step (c : Cursor) : Cursor :=
  match c.rest with
  | [] => c
  | '\r' :: '\n' :: rest => ⟨'\n' :: rest, c.line, c.column + 1, c.offset + 1⟩
  | ch :: rest =>
      if isBreak ch then ⟨rest, c.line + 1, 0, c.offset + 1⟩
      else if ch = '\ufeff' then { c with rest := rest, offset := c.offset + 1 }
      else ⟨rest, c.line, c.column + 1, c.offset + 1⟩

def skip : Nat → Cursor → Cursor
  | 0, c => c
  | n + 1, c => skip n c.step

/-- Forward to a tail of what is left. -/
def forwardTo (c : Cursor) (rest : List Char) : Cursor := c.skip (c.rest.length - rest.length)

end Cursor
end ClassAtlas.Yaml
