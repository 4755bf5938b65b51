import ClassAtlas.Decimal.Limit
import ClassAtlas.Json.Basic

/-!
Reading JSON text. Beyond the standard grammar the words `NaN`, `Infinity` and `-Infinity` are
numbers. A repeated member name keeps its first place and its last value. The first fault from the
left counts. The length of a text bounds the recursion over its values.
-/
namespace ClassAtlas.Json

/-- Why a text is no JSON value, or none that is read. -/
inductive Fault where
  | malformed
  | tooManyDigits (count : Nat)
  | tooDeep
  deriving DecidableEq, Repr

/-- How deep collections are read under the recursion limit that a run starts with. A reader with a
higher limit reads deeper. -/
def readingDepth : Nat := 990

namespace Reader

open Text Decimal

def isBlank (c : Char) : Bool := c == ' ' || c == '\t' || c == '\n' || c == '\r'

def skipBlanks (text : List Char) : List Char := text.dropWhile isBlank

/-- One element of a string as written: a character, or a 16-bit unit given by its number. -/
inductive Unit16 where
  | char (c : Char)
  | code (n : Nat)
  deriving DecidableEq, Repr

def shortEscape? (c : Char) : Option Char :=
  match c with
  | '"' => some '"'
  | '\\' => some '\\'
  | '/' => some '/'
  | 'b' => some '\x08'
  | 'f' => some '\x0c'
  | 'n' => some '\n'
  | 'r' => some '\r'
  | 't' => some '\t'
  | _ => none

/-- The elements of a string up to its closing quote, and what follows. -/
def units : List Char → Option (List Unit16 × List Char)
  | [] => none
  | '"' :: rest => some ([], rest)
  | '\\' :: 'u' :: a :: b :: c :: d :: rest => do
      let n ← Hex.number? [a, b, c, d]
      let (more, rest) ← units rest
      return (.code n :: more, rest)
  | '\\' :: c :: rest => do
      let meant ← shortEscape? c
      let (more, rest) ← units rest
      return (.char meant :: more, rest)
  | c :: rest =>
      if c < ' ' then none
      else do
        let (more, rest) ← units rest
        return (.char c :: more, rest)

def isHigh (n : Nat) : Bool := 0xd800 ≤ n && n < 0xdc00

def isLow (n : Nat) : Bool := 0xdc00 ≤ n && n < 0xe000

/-- A unit that is no character by itself. -/
def lone (n : Nat) : Char := if isHigh n || isLow n then '\ufffd' else Char.ofNat n

/-- Two units that form a surrogate pair are one character. -/
def characters : List Unit16 → List Char
  | [] => []
  | .code high :: .code low :: rest =>
      if isHigh high && isLow low then
        Char.ofNat (0x10000 + (high - 0xd800) * 0x400 + (low - 0xdc00)) :: characters rest
      else lone high :: characters (.code low :: rest)
  | .code n :: rest => lone n :: characters rest
  | .char c :: rest => c :: characters rest

/-- A string whose opening quote has been read. -/
def string (text : List Char) : Option (String × List Char) := do
  let (read, rest) ← units text
  return (String.ofList (characters read), rest)

def isDigit (c : Char) : Bool := '0' ≤ c && c ≤ '9'

def number (digits : List Char) : Nat :=
  digits.foldl (fun n c => 10 * n + (c.toNat - '0'.toNat)) 0

/-- The digits before the point: a single zero, or digits that start with another. -/
def integral? : List Char → Option (List Char × List Char)
  | '0' :: rest => some (['0'], rest)
  | text =>
      let digits := text.takeWhile isDigit
      if digits.isEmpty then none else some (digits, text.dropWhile isDigit)

/-- A point and at least one digit; otherwise nothing is read. -/
def fraction? : List Char → Option (List Char × List Char)
  | '.' :: rest =>
      let digits := rest.takeWhile isDigit
      if digits.isEmpty then none else some (digits, rest.dropWhile isDigit)
  | _ => none

def exponentDigits? (negative : Bool) (text : List Char) : Option (Int × List Char) :=
  let digits := text.takeWhile isDigit
  if digits.isEmpty then none
  else
    let magnitude : Int := number digits
    some (if negative then -magnitude else magnitude, text.dropWhile isDigit)

def exponent? : List Char → Option (Int × List Char)
  | c :: rest =>
      if c = 'e' ∨ c = 'E' then
        match rest with
        | '-' :: digits => exponentDigits? true digits
        | '+' :: digits => exponentDigits? false digits
        | digits => exponentDigits? false digits
      else none
  | [] => none

def expected {α : Type} : Option α → Except Fault α
  | some a => .ok a
  | none => .error .malformed

/-- An integer of digits that are not too many. -/
def integer (negative : Bool) (digits rest : List Char) : Except Fault (Json × List Char) :=
  if digits.length > digitLimit then .error (.tooManyDigits digits.length)
  else
    let n : Int := number digits
    .ok (.int (if negative then -n else n), rest)

/-- A number without point and exponent is an integer. -/
def magnitude (negative : Bool) (text : List Char) : Except Fault (Json × List Char) := do
  let (whole, rest) ← expected (integral? text)
  match fraction? rest, exponent? ((fraction? rest).map (·.2) |>.getD rest) with
  | none, none => integer negative whole rest
  | some (part, rest), none =>
      return (.float (.ofDecimal negative (number (whole ++ part)) (-part.length)), rest)
  | none, some (power, rest) => return (.float (.ofDecimal negative (number whole) power), rest)
  | some (part, _), some (power, rest) =>
      return (.float (.ofDecimal negative (number (whole ++ part)) (power - part.length)), rest)

/-- What follows a literal word. -/
def afterWord? : List Char → List Char → Option (List Char)
  | [], rest => some rest
  | w :: word, c :: rest => if w = c then afterWord? word rest else none
  | _ :: _, [] => none

def words : List (List Char × Json) :=
  [("null".toList, .null), ("true".toList, .bool true), ("false".toList, .bool false),
    ("NaN".toList, .float .nan), ("Infinity".toList, .float (.infinite false)),
    ("-Infinity".toList, .float (.infinite true))]

def word? (text : List Char) : Option (Json × List Char) :=
  words.findSome? fun (word, v) => (afterWord? word text).map fun rest => (v, rest)

/-- Words and numbers. -/
def atom (text : List Char) : Except Fault (Json × List Char) :=
  match word? text with
  | some read => .ok read
  | none =>
      match text with
      | '-' :: rest => magnitude true rest
      | _ => magnitude false text

/-- Another collection is entered at a depth. -/
def enter (limit depth : Nat) : Except Fault Unit :=
  if depth < limit then .ok () else .error .tooDeep

mutual

/-- A value within as many collections as `depth` says. -/
def value (limit depth : Nat) : Nat → List Char → Except Fault (Json × List Char)
  | 0, _ => .error .malformed
  | fuel + 1, '[' :: rest => do
      enter limit depth
      match skipBlanks rest with
      | ']' :: rest => return (.arr [], rest)
      | text =>
          let (read, rest) ← items limit (depth + 1) fuel text
          return (.arr read, rest)
  | fuel + 1, '\x7b' :: rest => do
      enter limit depth
      match skipBlanks rest with
      | '\x7d' :: rest => return (.obj [], rest)
      | text =>
          let (read, rest) ← members limit (depth + 1) fuel text
          return (.obj (read.foldl (fun kept (name, v) => put name v kept) []), rest)
  | _, '"' :: rest => do
      let (s, rest) ← expected (string rest)
      return (.str s, rest)
  | _, text => atom text

/-- Items up to the closing bracket. -/
def items (limit depth : Nat) : Nat → List Char → Except Fault (List Json × List Char)
  | 0, _ => .error .malformed
  | fuel + 1, text => do
      let (v, rest) ← value limit depth fuel text
      match skipBlanks rest with
      | ']' :: rest => return ([v], rest)
      | ',' :: rest =>
          let (more, rest) ← items limit depth fuel (skipBlanks rest)
          return (v :: more, rest)
      | _ => throw .malformed

/-- Members up to the closing brace. -/
def members (limit depth : Nat) :
    Nat → List Char → Except Fault (List (String × Json) × List Char)
  | fuel + 1, '"' :: text => do
      let (name, rest) ← expected (string text)
      match skipBlanks rest with
      | ':' :: rest =>
          let (v, rest) ← value limit depth fuel (skipBlanks rest)
          match skipBlanks rest with
          | '\x7d' :: rest => return ([(name, v)], rest)
          | ',' :: rest =>
              let (more, rest) ← members limit depth fuel (skipBlanks rest)
              return ((name, v) :: more, rest)
          | _ => throw .malformed
      | _ => throw .malformed
  | _, _ => .error .malformed

end
end Reader

/-- The value of a whole text, with blanks around it. -/
def parseWithin (limit : Nat) (text : String) : Except Fault Json := do
  let chars := Reader.skipBlanks text.toList
  let (v, rest) ← Reader.value limit 0 (chars.length + 1) chars
  if (Reader.skipBlanks rest).isEmpty then return v else throw .malformed

def parse : String → Except Fault Json := parseWithin readingDepth

end ClassAtlas.Json
