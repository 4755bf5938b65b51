import ClassAtlas.Yaml.Cursor
import ClassAtlas.Yaml.Fault

/-!
Block scalars. The header tells how the breaks at the end are kept and may give the indentation;
otherwise the first line that is not empty gives it. In the folded style a single break between
two lines that do not begin with a blank reads as a blank.
-/
namespace ClassAtlas.Yaml.Block

/-- What becomes of the breaks behind the last line: one is kept, none, or all. -/
inductive Chomping where
  | clip
  | strip
  | keep
  deriving DecidableEq, Repr

structure Header where
  chomping : Chomping
  increment : Option Nat

def chomping? : Char → Option Chomping
  | '+' => some .keep
  | '-' => some .strip
  | _ => none

def increment? (c : Char) : Option Nat :=
  if '0' ≤ c ∧ c ≤ '9' then some (c.toNat - '0'.toNat) else none

/-- Sign and digit in either order; the digit zero gives no indentation. -/
def indicators : List Char → Except Fault (Header × List Char)
  | [] => .ok (⟨.clip, none⟩, [])
  | c :: rest =>
      match chomping? c, increment? c with
      | some chomping, _ =>
          match rest with
          | d :: rest' =>
              match increment? d with
              | some 0 => .error .malformed
              | some n => .ok (⟨chomping, some n⟩, rest')
              | none => .ok (⟨chomping, none⟩, rest)
          | [] => .ok (⟨chomping, none⟩, [])
      | none, some 0 => .error .malformed
      | none, some n =>
          match rest with
          | d :: rest' =>
              match chomping? d with
              | some chomping => .ok (⟨chomping, some n⟩, rest')
              | none => .ok (⟨.clip, some n⟩, rest)
          | [] => .ok (⟨.clip, some n⟩, [])
      | none, none => .ok (⟨.clip, none⟩, c :: rest)

/-- What follows the rest of a line that holds only blanks and a comment. -/
def emptyLineEnd (text : List Char) : Except Fault (List Char) :=
  let text := text.dropWhile (· == ' ')
  let text := match text with
    | '#' :: _ => text.dropWhile (!isBreak ·)
    | _ => text
  match break? text with
  | some (_, rest) => .ok rest
  | none => if text.isEmpty then .ok [] else .error .malformed

/-- A line: the blanks before its content, the content, its break if it has one, and the text
from its beginning on. -/
structure Line where
  blanks : Nat
  content : List Char
  ending : Option Char
  origin : List Char

def Line.begin (text : List Char) : Line := ⟨0, [], none, text⟩

def Line.addFront (line : Line) (c : Char) (origin : List Char) : Line :=
  if c == ' ' then ⟨line.blanks + 1, line.content, line.ending, origin⟩
  else ⟨0, c :: List.replicate line.blanks ' ' ++ line.content, line.ending, origin⟩

/-- The lines of a text; the last one has no break. -/
def lines : List Char → List Line
  | [] => [Line.begin []]
  | '\r' :: '\n' :: rest => ⟨0, [], some '\n', '\r' :: '\n' :: rest⟩ :: lines rest
  | c :: rest =>
      if isBreak c then
        let meant := if c == '\u2028' || c == '\u2029' then c else '\n'
        ⟨0, [], some meant, c :: rest⟩ :: lines rest
      else match lines rest with
        | [] => []
        | line :: others => line.addFront c (c :: rest) :: others

def Line.isEmpty (line : Line) : Bool := line.content.isEmpty

/-- The indentation that the first lines show: the most blanks up to the first content. -/
def shownIndent : List Line → Nat
  | [] => 0
  | line :: rest => if line.isEmpty then max line.blanks (shownIndent rest) else line.blanks

/-- The part of a line behind the indentation, if the line belongs to the scalar. -/
def Line.part? (line : Line) (indent : Nat) : Option (List Char) :=
  if line.blanks < indent then none
  else
    let part := List.replicate (line.blanks - indent) ' ' ++ line.content
    if part.isEmpty then none else some part

/-- A line that is read as a break alone. -/
def Line.break? (line : Line) (indent : Nat) : Option Char :=
  if line.isEmpty && line.blanks ≤ indent then line.ending else none

/-- The line before: its break and whether it began with a blank. -/
structure Previous where
  ending : List Char
  indented : Bool

def startsBlank : List Char → Bool
  | [] => false
  | c :: _ => isBlank c

/-- The break between two lines with the empty lines between them. -/
def between (folded : Bool) (previous : Previous) (breaks : List Char) (part : List Char) :
    List Char :=
  if folded && previous.ending == ['\n'] && !previous.indented && !startsBlank part then
    if breaks.isEmpty then [' '] else breaks
  else previous.ending ++ breaks

def tail (chomping : Chomping) (previous : Option Previous) (breaks : List Char) : List Char :=
  let ending := previous.elim [] Previous.ending
  match chomping with
  | .strip => []
  | .clip => ending
  | .keep => ending ++ breaks

/-- The text of the lines that belong to the scalar, and what follows them. -/
def body (folded : Bool) (chomping : Chomping) (indent : Nat) :
    Option Previous → List Char → List Line → List Char × List Char
  | previous, breaks, [] => (tail chomping previous breaks, [])
  | previous, breaks, line :: rest =>
      match line.break? indent with
      | some c => body folded chomping indent previous (breaks ++ [c]) rest
      | none =>
          match line.part? indent with
          | none => (tail chomping previous breaks, line.origin)
          | some part =>
              let before := match previous with
                | some previous => between folded previous breaks part
                | none => breaks
              let (text, after) :=
                body folded chomping indent (some ⟨line.ending.toList, startsBlank part⟩) [] rest
              (before ++ part ++ text, after)

/-- A block scalar behind its indicator, in a collection of the given indentation. -/
def scalar (folded : Bool) (outer : Int) (text : List Char) :
    Except Fault (String × List Char) := do
  let (header, rest) ← indicators text
  if !atSpace rest then throw .malformed
  let rest ← emptyLineEnd rest
  let least := max 1 (outer + 1).toNat
  let lines := lines rest
  let indent := match header.increment with
    | some n => least + n - 1
    | none => max least (shownIndent lines)
  let (read, after) := body folded header.chomping indent none [] lines
  return (String.ofList read, after)

end ClassAtlas.Yaml.Block
