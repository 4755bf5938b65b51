/-!
Binary floating-point numbers of 64 bits, held exactly: a finite number is a significand below
2^53 times a power of two. Every ratio of naturals rounds to the nearest such number, ties to the
even significand.
-/
namespace ClassAtlas.Decimal

inductive Binary64 where
  | nan
  | infinite (negative : Bool)
  | finite (negative : Bool) (significand : Nat) (exponent : Int)
  deriving DecidableEq, Repr

/-- The quotient to the nearest integer, a half to the even neighbour. -/
def roundHalfEven (num den : Nat) : Nat :=
  let quotient := num / den
  let twice := 2 * (num % den)
  if twice < den then quotient
  else if twice > den then quotient + 1
  else quotient + quotient % 2

/-- A ratio divided by a power of two. -/
def scaledDown (num den : Nat) (exponent : Int) : Nat × Nat :=
  if exponent < 0 then (num * Nat.pow 2 (-exponent).toNat, den) else (num, den * Nat.pow 2 exponent.toNat)

namespace Binary64

def leastExponent : Int := -1074

def greatestExponent : Int := 971

def zero (negative : Bool) : Binary64 := .finite negative 0 leastExponent

/-- The binary exponent at which the integral part of the ratio has 53 bits, or fewer at the
lower end of the range. -/
def exponentFor (num den : Nat) : Int :=
  let estimate := max ((Nat.log2 num : Int) - Nat.log2 den - 53) leastExponent
  let (n, d) := scaledDown num den estimate
  if n / d ≥ Nat.pow 2 53 then estimate + 1 else estimate

def ofRatio (negative : Bool) (num den : Nat) : Binary64 :=
  if num = 0 then zero negative
  else
    let exponent := exponentFor num den
    let (n, d) := scaledDown num den exponent
    let significand := roundHalfEven n d
    let (significand, exponent) :=
      if significand = Nat.pow 2 53 then (Nat.pow 2 52, exponent + 1) else (significand, exponent)
    if exponent > greatestExponent then .infinite negative
    else .finite negative significand exponent

/-- The number nearest to `digits · 10^exponent`. Exponents far outside the range are cut off
before the power is formed. -/
def ofDecimal (negative : Bool) (digits : Nat) (exponent : Int) : Binary64 :=
  let magnitude := exponent + (toString digits).length
  if digits = 0 ∨ magnitude < -400 then zero negative
  else if magnitude > 400 then .infinite negative
  else if exponent < 0 then ofRatio negative digits (Nat.pow 10 (-exponent).toNat)
  else ofRatio negative (digits * Nat.pow 10 exponent.toNat) 1

def ofInt (n : Int) : Binary64 := ofRatio (n < 0) n.natAbs 1

/-- A finite number as a signed ratio. -/
def toRatio? : Binary64 → Option (Int × Nat)
  | .finite negative significand exponent =>
      let magnitude : Int := significand
      let signed := if negative then -magnitude else magnitude
      if exponent < 0 then some (signed, Nat.pow 2 (-exponent).toNat)
      else some (signed * Nat.pow 2 exponent.toNat, 1)
  | _ => none

/-- The integer a number is equal to. -/
def toInt? (x : Binary64) : Option Int :=
  match x.toRatio? with
  | some (num, den) => if num % den = 0 then some (num / den) else none
  | none => none

def negate : Binary64 → Binary64
  | .nan => .nan
  | .infinite negative => .infinite !negative
  | .finite negative significand exponent => .finite (!negative) significand exponent

/-- The rounded sum; a sum that is exactly zero is positive unless both terms are negative. -/
def add (x y : Binary64) : Binary64 :=
  match x, y with
  | .finite _ 0 _, .finite _ 0 _ => if x = y then x else zero false
  | _, _ =>
      match x.toRatio?, y.toRatio? with
      | some (a, b), some (c, d) =>
          let num := a * d + c * b
          ofRatio (num < 0) num.natAbs (b * d)
      | none, some _ => x
      | some _, none => y
      | none, none => if x = y then x else .nan

/-- The rounded product with a natural number. -/
def scale (x : Binary64) (factor : Nat) : Binary64 :=
  match x, ofRatio false factor 1 with
  | .finite negative m p, .finite _ n q =>
      let (num, den) := scaledDown (m * n) 1 (-(p + q))
      ofRatio negative num den
  | .finite _ 0 _, _ => .nan
  | .finite negative _ _, _ => .infinite negative
  | .nan, _ => .nan
  | .infinite negative, _ => if factor = 0 then .nan else .infinite negative

/-- Equality of numbers: zeros of either sign are equal, and not-a-number equals itself. -/
def same (x y : Binary64) : Bool :=
  match x, y with
  | .finite _ 0 _, .finite _ 0 _ => true
  | _, _ => x = y

end Binary64
end ClassAtlas.Decimal
