import ClassAtlas.Text.Hex
import ClassAtlas.Yaml.Cursor
import ClassAtlas.Yaml.Tag

/-!
Which type a plain scalar has. Numbers may hold underscores; integers are binary, octal, decimal,
hexadecimal or sexagesimal, and a float has a point. All else that fits no pattern is text. A line
feed at the end is no part of a form.
-/
namespace ClassAtlas.Yaml.Pattern

open Text

def isDigit (c : Char) : Bool := '0' ≤ c && c ≤ '9'

def isDigitOr_ (c : Char) : Bool := isDigit c || c == '_'

def dropSign : List Char → List Char
  | '+' :: rest | '-' :: rest => rest
  | text => text

/-- One or more groups of a colon and a number below sixty. -/
def isSexagesimalTail : List Char → Bool
  | [':', d] => isDigit d
  | ':' :: d :: ':' :: rest => isDigit d && isSexagesimalTail (':' :: rest)
  | [':', t, d] => '0' ≤ t && t ≤ '5' && isDigit d
  | ':' :: t :: d :: rest => '0' ≤ t && t ≤ '5' && isDigit d && isSexagesimalTail rest
  | _ => false

def isDecimalInt : List Char → Bool
  | ['0'] => true
  | c :: rest =>
      isDigit c && c != '0'
        && (rest.all isDigitOr_ || isSexagesimalTail (rest.dropWhile isDigitOr_))
  | [] => false

def isInt (text : List Char) : Bool :=
  match dropSign text with
  | '0' :: 'b' :: rest => !rest.isEmpty && rest.all fun c => c == '0' || c == '1' || c == '_'
  | '0' :: 'x' :: rest => !rest.isEmpty && rest.all fun c => Hex.isDigit c || c == '_'
  | '0' :: c :: rest => (c :: rest).all fun c => '0' ≤ c && c ≤ '7' || c == '_'
  | body => isDecimalInt body

/-- Nothing, or an exponent with its sign. -/
def isExponentOrEmpty : List Char → Bool
  | [] => true
  | e :: sign :: digits =>
      (e == 'e' || e == 'E') && (sign == '+' || sign == '-') && !digits.isEmpty
        && digits.all isDigit
  | _ => false

/-- Digits, a point, and digits with an exponent or none. -/
def isPointFloat : List Char → Bool
  | c :: rest =>
      isDigit c && match rest.dropWhile isDigitOr_ with
        | '.' :: rest => isExponentOrEmpty (rest.dropWhile isDigitOr_)
        | _ => false
  | [] => false

def isSexagesimalFloat : List Char → Bool
  | c :: rest =>
      let tail := rest.dropWhile isDigitOr_
      let groups := tail.takeWhile (· != '.')
      match tail.drop groups.length with
      | '.' :: rest => isDigit c && isSexagesimalTail groups && rest.all isDigitOr_
      | _ => false
  | [] => false

def infinities : List (List Char) := [".inf".toList, ".Inf".toList, ".INF".toList]

def isFloat (text : List Char) : Bool :=
  let body := dropSign text
  isPointFloat body || isSexagesimalFloat body || infinities.contains body
    || [".nan", ".NaN", ".NAN"].contains (String.ofList text)
    || match text with
      | '.' :: c :: rest => isDigit c && isExponentOrEmpty (rest.dropWhile isDigitOr_)
      | _ => false

/-- The parts of a timestamp as written; the offset is in minutes. -/
structure Timestamp where
  year : List Char
  month : List Char
  day : List Char
  time : Option (List Char × List Char × List Char × List Char × Option Int)

def number (digits : List Char) : Nat :=
  digits.foldl (fun n c => 10 * n + (c.toNat - '0'.toNat)) 0

/-- One or two digits. -/
def shortNumber? : List Char → Option (List Char × List Char)
  | a :: b :: rest =>
      if !isDigit a then none else if isDigit b then some ([a, b], rest) else some ([a], b :: rest)
  | [a] => if isDigit a then some ([a], []) else none
  | [] => none

def twoDigits? : List Char → Option (List Char × List Char)
  | a :: b :: rest => if isDigit a && isDigit b then some ([a, b], rest) else none
  | _ => none

def expect? (c : Char) : List Char → Option (List Char)
  | d :: rest => if c = d then some rest else none
  | [] => none

def signed (sign : Char) (minutes : Nat) : Int := if sign = '-' then -(minutes : Int) else minutes

/-- The offset at the end of a timestamp, up to the end of the text. -/
def offset? (text : List Char) : Option (Option Int) :=
  match text.dropWhile isBlank with
  | [] => if text.isEmpty then some none else none
  | ['Z'] => some (some 0)
  | sign :: rest =>
      if sign ≠ '+' ∧ sign ≠ '-' then none
      else do
        let (hours, rest) ← shortNumber? rest
        match rest with
        | [] => return some (signed sign (60 * number hours))
        | ':' :: rest =>
            let (minutes, rest) ← twoDigits? rest
            if !rest.isEmpty then none
            return some (signed sign (60 * number hours + number minutes))
        | _ => none

def separator? : List Char → Option (List Char)
  | [] => none
  | c :: rest =>
      if c = 'T' ∨ c = 't' then some rest
      else if isBlank c then some (rest.dropWhile isBlank)
      else none

/-- A text without the line feed it may end in. -/
def withoutLastFeed : List Char → List Char
  | [] => []
  | ['\n'] => []
  | c :: rest => c :: withoutLastFeed rest

def timestampForm? (text : List Char) : Option Timestamp := do
  let (century, rest) ← twoDigits? text
  let (years, rest) ← twoDigits? rest
  let (month, rest) ← shortNumber? (← expect? '-' rest)
  let (day, rest) ← shortNumber? (← expect? '-' rest)
  if rest.isEmpty then return ⟨century ++ years, month, day, none⟩
  let (hour, rest) ← shortNumber? (← separator? rest)
  let (minute, rest) ← twoDigits? (← expect? ':' rest)
  let (second, rest) ← twoDigits? (← expect? ':' rest)
  let (fraction, rest) := match rest with
    | '.' :: rest => (rest.takeWhile isDigit, rest.dropWhile isDigit)
    | _ => ([], rest)
  return ⟨century ++ years, month, day, some (hour, minute, second, fraction, ← offset? rest)⟩

def timestamp? (text : List Char) : Option Timestamp := timestampForm? (withoutLastFeed text)

/-- Without a time, month and day have two digits each. -/
def isTimestamp (text : List Char) : Bool :=
  match timestampForm? text with
  | some ⟨_, month, day, none⟩ => month.length == 2 && day.length == 2
  | some _ => true
  | none => false

def boolWords : List String :=
  ["yes", "Yes", "YES", "no", "No", "NO", "true", "True", "TRUE", "false", "False", "FALSE",
    "on", "On", "ON", "off", "Off", "OFF"]

def nullWords : List String := ["~", "null", "Null", "NULL", ""]

/-- The type of a form. -/
def tagOfForm (form : String) : Tag :=
  if boolWords.contains form then .bool
  else if nullWords.contains form then .null
  else if form = "<<" then .merge
  else if form = "=" then .value
  else if isFloat form.toList then .float
  else if isInt form.toList then .int
  else if isTimestamp form.toList then .timestamp
  else .str

/-- The type of a plain scalar. A mere line feed is text, although nothing at all is null. -/
def tagOf (text : String) : Tag :=
  if text = "\n" then .str else tagOfForm (String.ofList (withoutLastFeed text.toList))

end ClassAtlas.Yaml.Pattern
