import ClassAtlas.Text.Pieces

/-!
Paths of files. Empty segments and single dots drop out of a path, double dots stay. A path that
begins with exactly two slashes keeps them.
-/
namespace ClassAtlas.Files

inductive Anchor where
  | here
  | root
  | pairRoot
  deriving DecidableEq, Repr

def Anchor.text : Anchor → String
  | .here => ""
  | .root => "/"
  | .pairRoot => "//"

def Anchor.ofText : List Char → Anchor
  | '/' :: '/' :: '/' :: _ => .root
  | '/' :: '/' :: _ => .pairRoot
  | '/' :: _ => .root
  | _ => .here

structure Path where
  anchor : Anchor
  parts : List String
  deriving DecidableEq, Repr

namespace Path

def isPart (segment : List Char) : Bool := segment != [] && segment != ['.']

def ofText (text : String) : Path where
  anchor := Anchor.ofText text.toList
  parts := ((Text.pieces '/' text.toList).filter isPart).map String.ofList

/-- The empty path is written as a dot. -/
def text (p : Path) : String :=
  if p.anchor = .here ∧ p.parts = [] then "."
  else p.anchor.text ++ Text.separated "/" p.parts

/-- The second path as seen from the first. -/
def join (p q : Path) : Path :=
  if q.anchor = .here then ⟨p.anchor, p.parts ++ q.parts⟩ else q

def parent (p : Path) : Path := ⟨p.anchor, p.parts.dropLast⟩

def hasNul (p : Path) : Bool := p.parts.any (·.toList.contains '\x00')

example : (ofText "a//./b/").text = "a/b" := by decide +kernel
example : (ofText "").text = "." := by decide +kernel
example : ((ofText "out").join (ofText "../x")).text = "out/../x" := by decide +kernel

end Path
end ClassAtlas.Files
