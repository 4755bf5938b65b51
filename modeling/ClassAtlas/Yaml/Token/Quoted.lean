import ClassAtlas.Text.Hex
import ClassAtlas.Yaml.Fault
import ClassAtlas.Yaml.Token.Folding

/-!
Quoted scalars. Between single quotes a doubled quote is a quote; between double quotes a
backslash escapes. A line of a quoted scalar cannot begin with a document marker. Values hold
strings, so an escaped surrogate, which the format lets stand, is read as the replacement character.
-/
namespace ClassAtlas.Yaml.Quoted

open Text

abbrev Read := Except Fault (List Piece × List Char)

def cons (p : Piece) (r : Read) : Read := r.map fun (ps, rest) => (p :: ps, rest)

/-- A break within the quotes, given the line that follows it. -/
def afterBreak (p : Piece) (following : List Char) (r : Read) : Read :=
  if atDocumentMarker following then .error .malformed else cons p r

def plainBreak (c : Char) : Piece :=
  .lineBreak (if c == '\u2028' || c == '\u2029' then c else '\n')

/-- Up to the closing single quote. -/
def single : List Char → Read
  | [] => .error .malformed
  | '\'' :: '\'' :: rest => cons (.char '\'') (single rest)
  | '\'' :: rest => .ok ([], rest)
  | '\r' :: '\n' :: rest => afterBreak (.lineBreak '\n') rest (single rest)
  | c :: rest =>
      if isBreak c then afterBreak (plainBreak c) rest (single rest)
      else cons (if isBlank c then .blank c else .char c) (single rest)

def shortEscape? (c : Char) : Option Char :=
  [('0', '\x00'), ('a', '\x07'), ('b', '\x08'), ('t', '\t'), ('\t', '\t'), ('n', '\n'),
    ('v', '\x0b'), ('f', '\x0c'), ('r', '\r'), ('e', '\x1b'), (' ', ' '), ('"', '"'),
    ('\\', '\\'), ('/', '/'), ('N', '\x85'), ('_', '\xa0'), ('L', '\u2028'),
    ('P', '\u2029')].lookup c

/-- The character of a number. A number that fills more than a signed word of 32 bits is refused for
that alone. -/
def numbered (digits : List Char) : Except Fault Piece :=
  match Hex.number? digits with
  | none => .error .malformed
  | some n =>
      if n ≥ Nat.pow 2 31 then .error (.overflow "Python int too large to convert to C int")
      else if n ≥ 0x110000 then .error (.impossible "chr() arg not in range(0x110000)")
      else if 0xd800 ≤ n ∧ n < 0xe000 then .ok (.char '\ufffd')
      else .ok (.char (Char.ofNat n))

def consNumbered (digits : List Char) (r : Read) : Read := do
  cons (← numbered digits) r

/-- Up to the closing double quote. -/
def double : List Char → Read
  | [] => .error .malformed
  | '"' :: rest => .ok ([], rest)
  | '\\' :: '\r' :: '\n' :: rest => afterBreak .joint rest (double rest)
  | '\\' :: 'x' :: a :: b :: rest => consNumbered [a, b] (double rest)
  | '\\' :: 'u' :: a :: b :: c :: d :: rest => consNumbered [a, b, c, d] (double rest)
  | '\\' :: 'U' :: a :: b :: c :: d :: e :: f :: g :: h :: rest =>
      consNumbered [a, b, c, d, e, f, g, h] (double rest)
  | '\\' :: c :: rest =>
      if isBreak c then afterBreak .joint rest (double rest)
      else match shortEscape? c with
        | some meant => cons (.char meant) (double rest)
        | none => .error .malformed
  | '\r' :: '\n' :: rest => afterBreak (.lineBreak '\n') rest (double rest)
  | c :: rest =>
      if isBreak c then afterBreak (plainBreak c) rest (double rest)
      else cons (if isBlank c then .blank c else .char c) (double rest)

/-- The text of a quoted scalar whose opening quote has been read, and what follows it. -/
def scalar (isDouble : Bool) (text : List Char) : Except Fault (String × List Char) := do
  let (pieces, rest) ← if isDouble then double text else single text
  return (String.ofList (fold true Gap.empty pieces), rest)

end ClassAtlas.Yaml.Quoted
