import ClassAtlas.Json.Basic

/-!
JSON text without blanks and in ASCII only: a character outside the printable ASCII range is
written as one `\uNNNN` escape per 16-bit unit.
-/
namespace ClassAtlas.Json.Writer

open Text

/-- The high and the low surrogate of a code point above the basic plane. -/
def surrogates (n : Nat) : Nat × Nat :=
  (0xd800 + (n - 0x10000) / 0x400, 0xdc00 + (n - 0x10000) % 0x400)

def unit (n : Nat) : List Char := ['\\', 'u'] ++ Hex.fixed 4 n

def escaped (c : Char) : List Char :=
  if c = '"' then ['\\', '"']
  else if c = '\\' then ['\\', '\\']
  else if c = '\n' then ['\\', 'n']
  else if c = '\r' then ['\\', 'r']
  else if c = '\t' then ['\\', 't']
  else if c = '\x08' then ['\\', 'b']
  else if c = '\x0c' then ['\\', 'f']
  else if ' ' ≤ c ∧ c ≤ '~' then [c]
  else if c.toNat < 0x10000 then unit c.toNat
  else unit (surrogates c.toNat).1 ++ unit (surrogates c.toNat).2

def string (s : String) : List Char := '"' :: s.toList.flatMap escaped ++ ['"']

def float : Decimal.Binary64 → String
  | .nan => "NaN"
  | .infinite false => "Infinity"
  | .infinite true => "-Infinity"
  | x => x.text

mutual

def value : Json → List Char
  | .null => "null".toList
  | .bool true => "true".toList
  | .bool false => "false".toList
  | .int n => (toString n).toList
  | .float x => (float x).toList
  | .str s => string s
  | .arr [] => ['[', ']']
  | .arr (v :: rest) => '[' :: value v ++ moreItems rest
  | .obj [] => ['\x7b', '\x7d']
  | .obj ((name, v) :: rest) => '\x7b' :: string name ++ ':' :: value v ++ moreMembers rest

def moreItems : List Json → List Char
  | [] => [']']
  | v :: rest => ',' :: value v ++ moreItems rest

def moreMembers : List (String × Json) → List Char
  | [] => ['\x7d']
  | (name, v) :: rest => ',' :: string name ++ ':' :: value v ++ moreMembers rest

end
end Writer

/-- The text of a value on one line. -/
def compact (v : Json) : String := String.ofList (Writer.value v)

end ClassAtlas.Json
