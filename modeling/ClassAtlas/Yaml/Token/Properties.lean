import ClassAtlas.Decimal.Limit
import ClassAtlas.Text.Hex
import ClassAtlas.Yaml.Cursor
import ClassAtlas.Yaml.Token.Basic

/-!
Anchors, aliases, tags and directives.
-/
namespace ClassAtlas.Yaml.Properties

open Text

def isWordChar (c : Char) : Bool := c.isAlphanum || c == '-' || c == '_'

/-- A word of letters, digits, hyphens and underscores. -/
def word (text : List Char) : Except Fault (String × List Char) :=
  let taken := text.takeWhile isWordChar
  if taken.isEmpty then .error .malformed
  else .ok (String.ofList taken, text.drop taken.length)

def endsAnchor : List Char → Bool
  | [] => true
  | c :: _ => isBlank c || isBreak c || "?:,]\x7d%@`".toList.contains c

/-- The name behind `&` or `*`. -/
def anchor (text : List Char) : Except Fault (String × List Char) := do
  let (name, rest) ← word text
  if !endsAnchor rest then throw .malformed
  return (name, rest)

def isUriChar (c : Char) : Bool := c.isAlphanum || "-;/?:@&=+$,_.!~*'()[]".toList.contains c

/-- The bytes of a tag; a percent sign and two digits stand for one of them. -/
def uriBytes : List Char → Except Fault (List UInt8 × List Char)
  | '%' :: a :: b :: rest =>
      match Hex.number? [a, b] with
      | none => .error .malformed
      | some n => (uriBytes rest).map fun (bytes, rest) => (n.toUInt8 :: bytes, rest)
  | '%' :: _ => .error .malformed
  | [] => .ok ([], [])
  | c :: rest =>
      if isUriChar c then
        (uriBytes rest).map fun (bytes, rest) => (c.toNat.toUInt8 :: bytes, rest)
      else .ok ([], c :: rest)

def uri (text : List Char) : Except Fault (String × List Char) := do
  let (bytes, rest) ← uriBytes text
  if bytes.isEmpty then throw .malformed
  match String.fromUTF8? ⟨bytes.toArray⟩ with
  | some s => return (s, rest)
  | none => throw .malformed

/-- A tag handle: an exclamation mark, or a word between two. -/
def handle : List Char → Except Fault (String × List Char)
  | '!' :: ' ' :: rest => .ok ("!", ' ' :: rest)
  | '!' :: rest =>
      let taken := rest.takeWhile isWordChar
      match rest.drop taken.length with
      | '!' :: rest => .ok (String.ofList ('!' :: taken ++ ['!']), rest)
      | _ => .error .malformed
  | _ => .error .malformed

/-- Whether a further exclamation mark stands before the next blank. -/
def hasHandle (text : List Char) : Bool :=
  (text.takeWhile fun c => c != ' ' && !isBreak c).contains '!'

def verbatim (text : List Char) : Except Fault (Token × List Char) := do
  let (s, rest) ← uri text
  match rest with
  | '>' :: rest => return (.tag none s, rest)
  | _ => throw .malformed

def shorthand (text : List Char) : Except Fault (Token × List Char) := do
  if hasHandle text then
    let (h, rest) ← handle ('!' :: text)
    let (s, rest) ← uri rest
    return (.tag (some h) s, rest)
  else
    let (s, rest) ← uri text
    return (.tag (some "!") s, rest)

def tagName (text : List Char) : Except Fault (Token × List Char) :=
  match text with
  | '<' :: rest => verbatim rest
  | _ => if atWordEnd text then .ok (.tag none "!", text) else shorthand text

/-- A tag behind its exclamation mark, up to a blank. -/
def tag (text : List Char) : Except Fault (Token × List Char) := do
  let (token, rest) ← tagName text
  if !atSpace rest then throw .malformed
  return (token, rest)

/-- A number of a version, unless it has more digits than are read. -/
def number (text : List Char) : Except Fault (Nat × List Char) :=
  let taken := text.takeWhile Char.isDigit
  if taken.isEmpty then .error .malformed
  else if taken.length > Decimal.digitLimit then
    .error (.impossible (Decimal.readingReason taken.length))
  else
    let n := taken.foldl (fun n c => 10 * n + (c.toNat - '0'.toNat)) 0
    .ok (n, text.drop taken.length)

def skipBlanks (text : List Char) : List Char := text.dropWhile (· == ' ')

def version (text : List Char) : Except Fault (Token × List Char) := do
  let (major, rest) ← number (skipBlanks text)
  match rest with
  | '.' :: rest =>
      let (_, rest) ← number rest
      if !atSpace rest then throw .malformed
      return (.version major, rest)
  | _ => throw .malformed

def tagHandle (text : List Char) : Except Fault (Token × List Char) := do
  let (h, rest) ← handle (skipBlanks text)
  match rest with
  | ' ' :: _ =>
      let (s, rest) ← uri (skipBlanks rest)
      if !atSpace rest then throw .malformed
      return (.handle h s, rest)
  | _ => throw .malformed

/-- A directive behind its percent sign, up to the end of the line. -/
def directive (text : List Char) : Except Fault (Token × List Char) := do
  let (name, rest) ← word text
  if !atSpace rest then throw .malformed
  let (token, rest) ←
    if name = "YAML" then version rest
    else if name = "TAG" then tagHandle rest
    else .ok (Token.reserved, rest.dropWhile (!isBreak ·))
  let rest := skipBlanks rest
  let rest := match rest with
    | '#' :: _ => rest.dropWhile (!isBreak ·)
    | _ => rest
  match break? rest with
  | some (_, rest) => return (token, rest)
  | none => if rest.isEmpty then return (token, []) else throw .malformed

end ClassAtlas.Yaml.Properties
