import ClassAtlas.Decimal.Limit
import ClassAtlas.Text.Blank
import ClassAtlas.Text.Casing
import ClassAtlas.Text.Digits
import ClassAtlas.Value
import ClassAtlas.Yaml.Fault
import ClassAtlas.Yaml.Scalar.Pattern

/-!
What a scalar of a given type means. A type may also be given to a scalar that does not fit its
pattern; then more forms of numbers are read, and texts that are none are faults.
-/
namespace ClassAtlas.Yaml.Meaning

open Text Decimal

def withoutUnderscores (text : String) : List Char := text.toList.filter (· != '_')

/-- Digits of all scripts count as those of ASCII, and wide blanks as spaces. -/
def plainForm (c : Char) : Char :=
  if c.toNat < 0x80 then c
  else if isWideBlank c then ' '
  else match decimalValue? c with
    | some d => Hex.digit d
    | none => c

/-- What numbers are read from: plain characters without blanks around them. -/
def plainText (text : List Char) : List Char := trimmed (text.map plainForm)

def isNegative : List Char → Bool
  | '-' :: _ => true
  | _ => false

/-- The mark that a number of a base may begin with. -/
def baseMark? : Nat → Option Char
  | 2 => some 'b'
  | 8 => some 'o'
  | 16 => some 'x'
  | _ => none

def dropBaseMark (base : Nat) : List Char → List Char
  | '0' :: c :: rest => if baseMark? base = some c.toLower then rest else '0' :: c :: rest
  | text => text

def natural? (base : Nat) (text : List Char) : Option Nat :=
  if text.isEmpty then none
  else text.foldl (fun n c => do
    let n ← n
    let d ← Hex.value? c
    if d < base then return base * n + d else none) (some 0)

/-- A text that is no number is quoted, though not beyond its first part. -/
def literalReason (base : Nat) (text : List Char) : String :=
  "invalid literal for int() with base " ++ toString base ++ ": "
    ++ String.ofList ((Text.quoted (String.ofList text)).toList.take 200)

/-- A whole number with blanks around it and a sign before it. The digits of a decimal number are
counted before anything else is found wrong with it. -/
def integer (base : Nat) (text : List Char) : Except Fault Int :=
  let body := plainText text
  let unsigned := Pattern.dropSign body
  let digits := (unsigned.takeWhile Pattern.isDigit).length
  if base = 10 ∧ digits > digitLimit then .error (.impossible (readingReason digits))
  else match natural? base (dropBaseMark base unsigned) with
    | some n => .ok (if isNegative body then -(n : Int) else n)
    | none => .error (.impossible (literalReason base text))

/-- Groups between colons count in sixtieths of the group before. -/
def sexagesimal (digits : List Int) : Int := digits.foldl (fun n d => 60 * n + d) 0

/-- The number behind the sign. -/
def magnitude : List Char → Except Fault Int
  | [] => .error .emptyNumber
  | ['0'] => .ok 0
  | '0' :: 'b' :: rest => integer 2 rest
  | '0' :: 'x' :: rest => integer 16 rest
  | '0' :: rest => integer 8 ('0' :: rest)
  | text =>
      if text.contains ':' then sexagesimal <$> (pieces ':' text).mapM (integer 10)
      else integer 10 text

def int (text : String) : Except Fault Int := do
  let body := withoutUnderscores text
  if body.isEmpty then throw .emptyNumber
  let n ← magnitude (Pattern.dropSign body)
  return if isNegative body then -n else n

/-- A decimal: digits with a point among them or none, and an exponent with a sign or none. -/
def decimal? (negative : Bool) (text : List Char) : Option Binary64 :=
  let whole := text.takeWhile Pattern.isDigit
  let rest := text.drop whole.length
  let (fraction, rest) := match rest with
    | '.' :: rest => (rest.takeWhile Pattern.isDigit, rest.dropWhile Pattern.isDigit)
    | _ => ([], rest)
  let digits := Pattern.number (whole ++ fraction)
  if whole.isEmpty && fraction.isEmpty then none
  else match rest with
    | [] => some (.ofDecimal negative digits (-fraction.length))
    | 'e' :: rest =>
        let power := Pattern.dropSign rest
        if power.isEmpty || !power.all Pattern.isDigit then none
        else
          let exponent := Pattern.signed (if isNegative rest then '-' else '+') (Pattern.number power)
          some (.ofDecimal negative digits (exponent - fraction.length))
    | _ => none

def floating (text : List Char) : Except Fault Binary64 :=
  let body := plainText text
  let negative := isNegative body
  let unsigned := Pattern.dropSign body
  let word := String.ofList unsigned
  if word = "inf" ∨ word = "infinity" then .ok (.infinite negative)
  else if word = "nan" then .ok .nan
  else match decimal? negative unsigned with
    | some x => .ok x
    | none =>
        .error (.impossible ("could not convert string to float: "
          ++ Text.quoted (String.ofList text)))

/-- The groups from the last to the first, each with its weight. -/
def weighted (groups : List Binary64) : Binary64 :=
  (groups.reverse.foldl (fun (sum, weight) x => (Binary64.add sum (x.scale weight), 60 * weight))
    (Binary64.zero false, 1)).1

/-- The greatest weight has to be a finite number, whatever it is multiplied with. -/
def sexagesimalSum (groups : List Binary64) : Except Fault Binary64 :=
  match Binary64.ofInt (Nat.pow 60 (groups.length - 1)) with
  | .infinite _ => .error (.overflow "int too large to convert to float")
  | _ => .ok (weighted groups)

def lowered (text : String) : List Char := Casing.lowercase (withoutUnderscores text)

def isNanWord (unsigned : List Char) : Bool := unsigned == ".nan".toList

/-- Whether a text is the word for the number that is none, and not the outcome of a reading. -/
def namesNan (text : String) : Bool := isNanWord (Pattern.dropSign (lowered text))

def float (text : String) : Except Fault Binary64 := do
  let body := lowered text
  if body.isEmpty then throw .emptyNumber
  let unsigned := Pattern.dropSign body
  let x ←
    if unsigned = ".inf".toList then .ok (.infinite false)
    else if isNanWord unsigned then .ok .nan
    else if unsigned.contains ':' then
      (pieces ':' unsigned).mapM floating >>= sexagesimalSum
    else floating unsigned
  return if isNegative body then x.negate else x

def bool (text : String) : Except Fault Bool :=
  let word := String.ofList (Casing.lowercase text.toList)
  if word = "yes" ∨ word = "true" ∨ word = "on" then .ok true
  else if word = "no" ∨ word = "false" ∨ word = "off" then .ok false
  else .error (.unknownWord word)

/-- The first six digits of a fraction, as microseconds. -/
def microseconds (fraction : List Char) : Nat :=
  let digits := fraction.take 6
  Pattern.number (digits ++ List.replicate (6 - digits.length) '0')

def timestamp (text : String) : Except Fault Value := do
  let some t := Pattern.timestamp? text.toList | throw .noTimestamp
  let year := Pattern.number t.year
  let month := Pattern.number t.month
  let day := Pattern.number t.day
  let value := match t.time with
    | none => Value.date <$> Calendar.date? year month day
    | some (hour, minute, second, fraction, offset) =>
        Value.dateTime <$> Calendar.dateTime? year month day (Pattern.number hour)
          (Pattern.number minute) (Pattern.number second) (microseconds fraction) offset
  value.mapError fun e => .impossible e.message

def base64Value? (c : Char) : Option Nat :=
  if 'A' ≤ c ∧ c ≤ 'Z' then some (c.toNat - 'A'.toNat)
  else if 'a' ≤ c ∧ c ≤ 'z' then some (c.toNat - 'a'.toNat + 26)
  else if '0' ≤ c ∧ c ≤ '9' then some (c.toNat - '0'.toNat + 52)
  else if c = '+' then some 62
  else if c = '/' then some 63
  else none

/-- The byte that a further six bits complete, given how many digits stand in the group so far. -/
def completed (count previous six : Nat) : List UInt8 :=
  match count with
  | 1 => [(previous * 4 + six / 16).toUInt8]
  | 2 => [(previous % 16 * 16 + six / 4).toUInt8]
  | 3 => [(previous % 4 * 64 + six).toUInt8]
  | _ => []

/-- Other characters are passed over. A group of two or three digits is closed by equals signs. -/
def base64 (count previous signs : Nat) : List Char → Except Fault (List UInt8)
  | [] => if count = 0 then .ok [] else .error .malformed
  | c :: rest =>
      if c = '=' then
        if count ≥ 2 ∧ count + signs + 1 ≥ 4 then .ok []
        else base64 count previous (if count ≥ 2 then signs + 1 else signs) rest
      else match base64Value? c with
        | none => base64 count previous signs rest
        | some six =>
            (base64 ((count + 1) % 4) six 0 rest).map (completed count previous six ++ ·)

def binary (text : String) : Except Fault (List UInt8) :=
  if text.toList.all fun c => c.toNat < 0x80 then base64 0 0 0 text.toList else .error .malformed

/-- A scalar of a type that only collections have is malformed. -/
def scalar (tag : Tag) (text : String) : Except Fault Value :=
  match tag with
  | .null => .ok .null
  | .bool => Value.bool <$> bool text
  | .int => Value.int <$> int text
  | .float => Value.float <$> float text
  | .str => .ok (.str text)
  | .binary => Value.bytes <$> binary text
  | .timestamp => timestamp text
  | _ => .error .malformed

end ClassAtlas.Yaml.Meaning
