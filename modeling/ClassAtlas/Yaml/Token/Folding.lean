import ClassAtlas.Yaml.Cursor

/-!
Line folding. Inside a scalar that runs over several lines a single break reads as a blank, and
breaks beyond the first read as themselves; blanks around breaks are dropped.
-/
namespace ClassAtlas.Yaml

/-- An element of a scalar as written. A joint is a break that is not read. -/
inductive Piece where
  | char (c : Char)
  | blank (c : Char)
  | lineBreak (c : Char)
  | joint
  deriving DecidableEq, Repr

/-- The blanks and breaks between two characters. After a joint no break is folded. -/
structure Gap where
  blanks : List Char
  breaks : List Char
  joined : Bool

namespace Gap

def empty : Gap := ⟨[], [], false⟩

def joint : Gap := ⟨[], [], true⟩

/-- Blanks after a break are dropped. -/
def addBlank (g : Gap) (c : Char) : Gap :=
  if g.joined || !g.breaks.isEmpty then g else { g with blanks := g.blanks ++ [c] }

def addBreak (g : Gap) (c : Char) : Gap := { g with breaks := g.breaks ++ [c] }

/-- What a gap reads as. -/
def text (g : Gap) : List Char :=
  if g.joined then g.breaks
  else match g.breaks with
    | [] => g.blanks
    | ['\n'] => [' ']
    | '\n' :: more => more
    | breaks => breaks

end Gap

/-- The gap at the end is read or dropped as the flag says. -/
def fold (keepLast : Bool) : Gap → List Piece → List Char
  | g, [] => if keepLast then g.text else []
  | g, .char c :: rest => g.text ++ c :: fold keepLast Gap.empty rest
  | g, .blank c :: rest => fold keepLast (g.addBlank c) rest
  | g, .lineBreak c :: rest => fold keepLast (g.addBreak c) rest
  | g, .joint :: rest => g.text ++ fold keepLast Gap.joint rest

end ClassAtlas.Yaml
