import ClassAtlas.Yaml.Token.Folding

/-!
Plain scalars. They end at a tab, at a comment, at a colon before a blank, at a document marker,
outside flow collections at a line that is indented too little, and inside them at an indicator.
-/
namespace ClassAtlas.Yaml.Plain

def isFlowIndicator (c : Char) : Bool :=
  c == ',' || c == '[' || c == ']' || c == '\x7b' || c == '\x7d'

def atFlowIndicator : List Char → Bool
  | [] => false
  | c :: _ => isFlowIndicator c

structure Place where
  flow : Bool
  indent : Int

/-- Whether a plain scalar stops before a character. -/
def stops (p : Place) (column : Nat) (afterGap : Bool) (c : Char) (rest : List Char) : Bool :=
  c == '\t'
    || afterGap && (c == '#' || !p.flow && column < p.indent)
    || c == ':' && (atWordEnd rest || p.flow && atFlowIndicator rest)
    || p.flow && (isFlowIndicator c || c == '?')

def cons (p : Piece) (read : List Piece × List Char) : List Piece × List Char :=
  (p :: read.1, read.2)

/-- The elements of a plain scalar from a column on, and what follows it. -/
def pieces (p : Place) : Nat → Bool → List Char → List Piece × List Char
  | _, _, [] => ([], [])
  | column, _, ' ' :: rest => cons (.blank ' ') (pieces p (column + 1) true rest)
  | _, _, '\r' :: '\n' :: rest =>
      cons (.lineBreak '\n') (if atDocumentMarker rest then ([], rest) else pieces p 0 true rest)
  | column, afterGap, c :: rest =>
      if isBreak c then
        let meant := if c == '\u2028' || c == '\u2029' then c else '\n'
        cons (.lineBreak meant)
          (if atDocumentMarker rest then ([], rest) else pieces p 0 true rest)
      else if stops p column afterGap c rest then ([], c :: rest)
      else
        let width := if c = '\ufeff' then 0 else 1
        cons (.char c) (pieces p (column + width) false rest)

/-- Whether the gap behind the last character holds a break. -/
def endsBroken (pieces : List Piece) : Bool :=
  (pieces.reverse.takeWhile (!· matches .char _)).any (· matches .lineBreak _)

def text (pieces : List Piece) : String := String.ofList (fold false Gap.empty pieces)

end ClassAtlas.Yaml.Plain
