import ClassAtlas.Text.Hex
import ClassAtlas.Text.Printable

/-!
Quoted text as it stands in messages. Single quotes are used unless the text holds a single
quote and no double quote; the backslash, the quote in use and every unprintable character are
escaped.
-/
namespace ClassAtlas.Text.Quoted

def quoteFor (text : List Char) : Char :=
  if text.contains '\'' && !text.contains '"' then '"' else '\''

/-- The shortest of the escapes `\xNN`, `\uNNNN` and `\UNNNNNNNN` that holds the number. -/
def numbered (n : Nat) : List Char :=
  if n < 0x100 then ['\\', 'x'] ++ Hex.fixed 2 n
  else if n < 0x10000 then ['\\', 'u'] ++ Hex.fixed 4 n
  else ['\\', 'U'] ++ Hex.fixed 8 n

def escaped (quote c : Char) : List Char :=
  if c = quote ∨ c = '\\' then ['\\', c]
  else if c = '\n' then ['\\', 'n']
  else if c = '\r' then ['\\', 'r']
  else if c = '\t' then ['\\', 't']
  else if isPrintable c then [c]
  else numbered c.toNat

def chars (text : List Char) : List Char :=
  let quote := quoteFor text
  quote :: text.flatMap (escaped quote) ++ [quote]

/-- The escapes of one byte: as for a character, but everything beyond ASCII is numbered. -/
def escapedByte (quote : Char) (byte : UInt8) : List Char :=
  if byte < 0x7f then escaped quote (Char.ofNat byte.toNat) else numbered byte.toNat

/-- Bytes are marked by a leading `b`. -/
def bytes (content : List UInt8) : String :=
  let quote := quoteFor (content.map fun byte => Char.ofNat byte.toNat)
  String.ofList ('b' :: quote :: content.flatMap (escapedByte quote) ++ [quote])

end Quoted

/-- Text in quotes, with escapes. -/
def quoted (text : String) : String := String.ofList (Quoted.chars text.toList)

example : quoted "it's" = "\"it's\"" := by decide +kernel
example : quoted "a\n\u200b" = "'a\\n\\u200b'" := by decide +kernel

end ClassAtlas.Text
