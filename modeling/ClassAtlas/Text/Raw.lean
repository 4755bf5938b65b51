import ClassAtlas.Text.Hex

/-!
Text in which surrogates can stand without being half of a pair. No bytes stand for a surrogate, so
such a text cannot be written out as it is: its encoding fails at the first surrogates, and where a
log shows it they are escaped.
-/
namespace ClassAtlas

/-- A string, or one up to a surrogate and the text behind it. Each sequence of characters and
surrogates has one such form. A surrogate is given by its distance from the first of them. -/
inductive RawText where
  | string (text : String)
  | broken (before : String) (surrogate : Fin 2048) (after : RawText)
  deriving DecidableEq, Repr

/-- The surrogates that an encoding stops at: where they stand, the first of them, and how many
follow it at once. -/
structure EncodingError where
  position : Nat
  first : Fin 2048
  further : Nat
  deriving DecidableEq, Repr

namespace RawText

instance : Coe String RawText := ⟨string⟩

def append : RawText → RawText → RawText
  | string text, string more => string (text ++ more)
  | string text, broken before surrogate after => broken (text ++ before) surrogate after
  | broken before surrogate after, more => broken before surrogate (after.append more)

instance : Append RawText := ⟨append⟩

def escape (surrogate : Fin 2048) : String :=
  "\\u" ++ String.ofList (Text.Hex.fixed 4 (0xd800 + surrogate))

def escaped : RawText → String
  | string text => text
  | broken before surrogate after => before ++ escape surrogate ++ after.escaped

/-- How many surrogates a text begins with. -/
def leading : RawText → Nat
  | string _ => 0
  | broken before _ after => if before.isEmpty then after.leading + 1 else 0

/-- The bytes of a text. -/
def encode : RawText → Except EncodingError (List UInt8)
  | string text => .ok text.toUTF8.toList
  | broken before first after => .error ⟨before.length, first, after.leading⟩

end RawText

/-- One surrogate is shown, of several only the place. -/
def EncodingError.reason (e : EncodingError) : String :=
  let found :=
    if e.further = 0 then
      "character '" ++ RawText.escape e.first ++ "' in position " ++ toString e.position
    else
      "characters in position " ++ toString e.position ++ "-" ++ toString (e.position + e.further)
  "'utf-8' codec can't encode " ++ found ++ ": surrogates not allowed"

end ClassAtlas
