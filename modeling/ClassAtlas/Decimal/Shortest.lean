import ClassAtlas.Decimal.Binary64

/-!
The shortest decimal text of a binary number: the fewest digits that read back to it, and of
those the nearest. Exponents from -4 to 15 are written positionally, always with a fraction.
-/
namespace ClassAtlas.Decimal

/-- Digits with an implied point before the first of them, times a power of ten. -/
structure Digits where
  digits : Nat
  point : Int
  deriving DecidableEq, Repr

namespace Shortest

/-- A ratio times a power of ten. -/
def timesTen (num den : Nat) (power : Int) : Nat × Nat :=
  if power < 0 then (num, den * Nat.pow 10 (-power).toNat) else (num * Nat.pow 10 power.toNat, den)

def digitCount (n : Nat) : Nat := (toString n).length

/-- The power of ten just above the ratio: `10^(k-1) ≤ num/den < 10^k`. -/
def magnitude (num den : Nat) : Int :=
  if num ≥ den then digitCount (num / den)
  else
    let k : Int := -(digitCount (den / num) - 1 : Int)
    let (n, d) := timesTen num den (-k)
    if n ≥ d then k + 1 else k

/-- The reals that round to a number, as bounds in quarters of its last place. The bounds belong
to the interval if the significand is even; below a power of two the spacing is halved. -/
structure Interval where
  low : Nat
  high : Nat
  closed : Bool

def interval (significand : Nat) (exponent : Int) : Interval :=
  let gap := if significand = Nat.pow 2 52 ∧ exponent > Binary64.leastExponent then 1 else 2
  ⟨4 * significand - gap, 4 * significand + 2, significand % 2 == 0⟩

/-- Whether the decimal `digits · 10^power` lies in an interval whose unit is `num/den`. -/
def Interval.holds (i : Interval) (num den : Nat) (digits : Nat) (power : Int) : Bool :=
  let (a, b) := timesTen digits 1 power
  let left := a * den
  if i.closed then i.low * num * b ≤ left && left ≤ i.high * num * b
  else i.low * num * b < left && left < i.high * num * b

/-- The best decimal of the given length, if one of the two neighbours on its grid reads back. -/
def ofLength? (significand : Nat) (exponent : Int) (length : Nat) : Option Digits :=
  let (unitNum, unitDen) := scaledDown 1 4 (-exponent)
  let num := 4 * significand * unitNum
  let k := magnitude num unitDen
  let power := k - length
  let (n, d) := timesTen num unitDen (-power)
  let below := n / d
  let i := interval significand exponent
  let lower := i.holds unitNum unitDen below power
  let upper := i.holds unitNum unitDen (below + 1) power
  let fraction := 2 * (n % d)
  let upward := upper && (!lower || fraction > d || fraction == d && below % 2 == 1)
  if upward then some ⟨below + 1, k + (digitCount (below + 1) - length : Int)⟩
  else if lower then some ⟨below, k⟩
  else none

/-- Seventeen digits always read back. -/
def digits (significand : Nat) (exponent : Int) : Digits :=
  ((List.range 17).findSome? fun n => ofLength? significand exponent (n + 1)).getD ⟨0, 0⟩

def zeros (n : Nat) : List Char := List.replicate n '0'

def dropTrailingZeros (text : List Char) : List Char :=
  (text.reverse.dropWhile (· == '0')).reverse

def positional (text : List Char) (point : Int) : List Char :=
  if point ≤ 0 then ['0', '.'] ++ zeros (-point).toNat ++ text
  else if point.toNat ≥ text.length then text ++ zeros (point.toNat - text.length) ++ ['.', '0']
  else text.take point.toNat ++ '.' :: text.drop point.toNat

/-- The exponent has a sign and at least two digits. -/
def scientific (text : List Char) (exponent : Int) : List Char :=
  let mantissa := match text with
    | first :: rest@(_ :: _) => first :: '.' :: rest
    | _ => text
  let power := (toString exponent.natAbs).toList
  let sign := if exponent < 0 then '-' else '+'
  mantissa ++ ['e', sign] ++ zeros (2 - power.length) ++ power

def text (d : Digits) : List Char :=
  let significant := dropTrailingZeros (toString d.digits).toList
  let exponent := d.point - 1
  if -4 ≤ exponent ∧ exponent < 16 then positional significant d.point
  else scientific significant exponent

end Shortest

def Binary64.text : Binary64 → String
  | .nan => "nan"
  | .infinite negative => if negative then "-inf" else "inf"
  | .finite negative significand exponent =>
      let sign := if negative then ['-'] else []
      let body :=
        if significand = 0 then ['0', '.', '0']
        else Shortest.text (Shortest.digits significand exponent)
      String.ofList (sign ++ body)

end ClassAtlas.Decimal
