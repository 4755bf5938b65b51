import ClassAtlas.Text.Pieces

/-!
Colours of the terminal output. A plain palette writes text as it is. A style is closed before
every line end and opened again behind it, and opened again where the text itself closes it.
-/
namespace ClassAtlas.CommandLine

inductive Palette where
  | plain
  | coloured
  deriving DecidableEq, Repr

/-- The codes that open and close a style. -/
structure Style where
  opening : List Char
  closing : List Char

namespace Style

def escape : Char := '\x1b'

/-- A code as written behind the escape character. -/
def code (number : String) : List Char := '[' :: number.toList ++ ['m']

def ofCodes (opening closing : String) : Style := ⟨code opening, code closing⟩

def opened (s : Style) : List Char := escape :: s.opening

def closed (s : Style) : List Char := escape :: s.closing

/-- What follows an escape character, with the style open if it had been closed there. -/
def reopenedPiece (s : Style) (piece : List Char) : List Char :=
  if s.closing.isPrefixOf piece then s.closing ++ s.opened ++ piece.drop s.closing.length
  else piece

def reopened (s : Style) (text : List Char) : List Char :=
  match Text.pieces escape text with
  | [] => []
  | first :: others => Text.joined [escape] (first :: others.map s.reopenedPiece)

def interrupted (s : Style) : List Char → List Char
  | [] => []
  | '\r' :: '\n' :: rest => s.closed ++ ['\r', '\n'] ++ s.opened ++ interrupted s rest
  | '\n' :: rest => s.closed ++ ['\n'] ++ s.opened ++ interrupted s rest
  | c :: rest => c :: interrupted s rest

/-- Nothing is written of a style without text. -/
def apply (s : Style) (text : String) : String :=
  if text.isEmpty then text
  else String.ofList (s.opened ++ s.interrupted (s.reopened text.toList) ++ s.closed)

end Style

namespace Palette

def styled (p : Palette) (s : Style) (text : String) : String :=
  match p with
  | plain => text
  | coloured => s.apply text

def bold (p : Palette) : String → String := p.styled (.ofCodes "1" "22")

def red (p : Palette) : String → String := p.styled (.ofCodes "31" "39")

def green (p : Palette) : String → String := p.styled (.ofCodes "32" "39")

def blue (p : Palette) : String → String := p.styled (.ofCodes "34" "39")

end Palette
end ClassAtlas.CommandLine
